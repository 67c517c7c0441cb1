import ParserKit.Regex.CharSet
import ParserKit.Text.Alphabetic
import ParserKit.Text.Blank
import ParserKit.Text.Category
import ParserKit.Text.Extender
import ParserKit.Text.Script

/-!
# Named classes of characters

The classes that a pattern can call by name: the short escapes for digits, blanks and word
characters, the bracketed names of the ASCII range, and the properties of Unicode.

## Main definitions

* `digitSet`, `blankSet`, `wordSet`: the classes of the short escapes
* `asciiClass?`: the classes of the ASCII range, by name
* `property?`: the characters with a Unicode property, by name
-/

namespace ParserKit.Regex

open Text

/-- The set of the characters of some categories. -/
def categorySet (gs : List Category) : CharSet :=
  .ofRanges (gs.flatMap fun g => g.table.ranges)

/-- The decimal digits of all scripts. -/
def digitSet : CharSet := categorySet [.decimalDigit]

/-- The blanks. -/
def blankSet : CharSet := .ofTable blanks

/-- The two characters that join or part the ones beside them. -/
def joinControls : CharSet := ⟨[(0x200c, 0x200d)]⟩

/-- The characters of words: alphabetic ones, marks, digits, connecting punctuation and the
join controls. -/
def wordSet : CharSet :=
  ((CharSet.ofTable alphabetic).union
    (categorySet [.nonspacingMark, .spacingMark, .enclosingMark, .decimalDigit, .connector])).union
    joinControls

/-- The decimal digits of the ASCII range. -/
def asciiDigits : CharSet := ⟨[(0x30, 0x39)]⟩

/-- The blanks of the ASCII range. -/
def asciiBlanks : CharSet := ⟨[(0x09, 0x0d), (0x20, 0x20)]⟩

/-- The word characters of the ASCII range. -/
def asciiWord : CharSet := ⟨[(0x30, 0x39), (0x41, 0x5a), (0x5f, 0x5f), (0x61, 0x7a)]⟩

/-- The classes of the ASCII range, by name. -/
def asciiClass? : String → Option CharSet
  | "alnum" => some ⟨[(0x30, 0x39), (0x41, 0x5a), (0x61, 0x7a)]⟩
  | "alpha" => some ⟨[(0x41, 0x5a), (0x61, 0x7a)]⟩
  | "ascii" => some ⟨[(0x00, 0x7f)]⟩
  | "blank" => some ⟨[(0x09, 0x09), (0x20, 0x20)]⟩
  | "cntrl" => some ⟨[(0x00, 0x1f), (0x7f, 0x7f)]⟩
  | "digit" => some asciiDigits
  | "graph" => some ⟨[(0x21, 0x7e)]⟩
  | "lower" => some ⟨[(0x61, 0x7a)]⟩
  | "print" => some ⟨[(0x20, 0x7e)]⟩
  | "punct" => some ⟨[(0x21, 0x2f), (0x3a, 0x40), (0x5b, 0x60), (0x7b, 0x7e)]⟩
  | "space" => some asciiBlanks
  | "upper" => some ⟨[(0x41, 0x5a)]⟩
  | "word" => some asciiWord
  | "xdigit" => some ⟨[(0x30, 0x39), (0x41, 0x46), (0x61, 0x66)]⟩
  | _ => none

/-! ## Properties -/

/-- The long names of the categories and of their groups, as they are compared: in lower case
and without breaks. -/
def categoryAliases : List (String × String) := [
  ("uppercaseletter", "lu"), ("lowercaseletter", "ll"), ("titlecaseletter", "lt"),
  ("modifierletter", "lm"), ("otherletter", "lo"), ("casedletter", "lc"), ("letter", "l"),
  ("nonspacingmark", "mn"), ("spacingmark", "mc"), ("enclosingmark", "me"), ("mark", "m"),
  ("combiningmark", "m"), ("decimalnumber", "nd"), ("digit", "nd"), ("letternumber", "nl"),
  ("othernumber", "no"), ("number", "n"), ("connectorpunctuation", "pc"),
  ("dashpunctuation", "pd"), ("openpunctuation", "ps"), ("closepunctuation", "pe"),
  ("initialpunctuation", "pi"), ("finalpunctuation", "pf"), ("otherpunctuation", "po"),
  ("punctuation", "p"), ("punct", "p"), ("mathsymbol", "sm"), ("currencysymbol", "sc"),
  ("modifiersymbol", "sk"), ("othersymbol", "so"), ("symbol", "s"), ("spaceseparator", "zs"),
  ("lineseparator", "zl"), ("paragraphseparator", "zp"), ("separator", "z"), ("control", "cc"),
  ("cntrl", "cc"), ("format", "cf"), ("surrogate", "cs"), ("privateuse", "co"),
  ("unassigned", "cn"), ("other", "c")]

/-- A name as it is compared: in lower case, without blanks, dashes and underscores, and without
a leading "is". -/
def normalizeName (name : String) : String :=
  let bare := (name.toList.filter fun c => c != ' ' && c != '_' && c != '-').map Char.toLower
  match bare with
  | 'i' :: 's' :: rest =>
    String.ofList (if rest == ['c'] || rest.isEmpty then bare else rest)
  | _ => String.ofList bare

/-- The categories whose short name starts with `group`. -/
def categoryGroup (group : Char) : List Category :=
  Category.all.filter fun g => g.code.toList.head?.map Char.toLower == some group

/-- The set of the general category, or group of categories, of a normalized name. -/
def category? (name : String) : Option CharSet :=
  let short := ((categoryAliases.find? fun a => a.1 == name).map (·.2)).getD name
  match short with
  | "any" => some .all
  | "assigned" => some (categorySet [.unassigned]).complement
  | "ascii" => some ⟨[(0x00, 0x7f)]⟩
  | "lc" => some (categorySet [.upperLetter, .lowerLetter, .titleLetter])
  | "cs" => some .none
  | short =>
    match short.toList with
    | [group] =>
      if "lmnpszc".toList.contains group then some (categorySet (categoryGroup group)) else none
    | _ =>
      (Category.all.find? fun g => g.code.toLower == short).map fun g => .ofTable g.table

/-- The set of the property of a normalized name that characters have or lack. -/
def binaryProperty? : String → Option CharSet
  | "alphabetic" => some (.ofTable alphabetic)
  | "alpha" => some (.ofTable alphabetic)
  | "whitespace" => some blankSet
  | "wspace" => some blankSet
  | "space" => some blankSet
  | "graphemeextend" => some (.ofTable extenders)
  | "grext" => some (.ofTable extenders)
  | "joincontrol" => some joinControls
  | "joinc" => some joinControls
  | _ => none

/-- The set of the script of a normalized name. -/
def script? (name : String) : Option CharSet :=
  (scripts.find? fun s => s.1 == name).map fun s => .ofTable s.2

/-- The characters with the property `name`. -/
def property? (name : String) : Option CharSet :=
  let name := normalizeName name
  (binaryProperty? name).orElse fun _ => (category? name).orElse fun _ => script? name

/-- The characters for which the property `name` has the value `value`. -/
def propertyValue? (name value : String) : Option CharSet :=
  let value := normalizeName value
  match normalizeName name with
  | "generalcategory" => category? value
  | "gc" => category? value
  | "script" => script? value
  | "sc" => script? value
  | _ => none

end ParserKit.Regex
