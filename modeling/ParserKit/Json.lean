import ParserKit.Grammar.Rules
import ParserKit.Number.Decimal
import ParserKit.Text.Hexadecimal

/-!
# JSON documents

A grammar for JSON, as an example of a recursive grammar over characters. Each token takes the
blanks behind it with it, so blanks are looked for once before the document and nowhere else. The
alternatives of a value begin with different characters, and none of them is attempted: a value is
known by its first character.

## Main definitions

* `Json.Node`: JSON trees
* `Json.put`, `Json.ofMembers`: the members of an object, one for each name
* `Json.text`: a quoted text with its escapes
* `Json.value`, `Json.document`: the grammars of a value and of a document
* `Json.rules`: the one rule that values refer to
-/

namespace ParserKit.Json

/-- JSON trees. The members of an object keep their order. -/
inductive Node where
  /-- The null. -/
  | null
  /-- A truth value. -/
  | bool (b : Bool)
  /-- A number. -/
  | number (x : Float)
  /-- A text. -/
  | text (s : String)
  /-- A row of values. -/
  | array (items : List Node)
  /-- Values under names. -/
  | object (members : List (String × Node))

/-- Put a value under a name: in the place of the value that the name had, or behind all others. -/
def put (name : String) (value : Node) : List (String × Node) → List (String × Node)
  | [] => [(name, value)]
  | (other, old) :: rest =>
    if other = name then (other, value) :: rest else (other, old) :: put name value rest

/-- The object of the members, put in one after the other. -/
def ofMembers (members : List (String × Node)) : Node :=
  .object (members.foldl (fun object (name, value) => put name value object) [])

open Grammar

variable {ρ : Type → Type}

/-! ## Texts -/

/-- A hexadecimal digit, as a number. -/
def hexDigit : Grammar Char ρ UInt32 :=
  ((satisfy fun c => (Text.hexValue? c).isSome).map fun c =>
    UInt32.ofNat ((Text.hexValue? c).getD 0)).label "hex digit"

/-- The code of four hexadecimal digits, the first one highest. -/
def codeOf : ((UInt32 × UInt32) × UInt32) × UInt32 → UInt32
  | (((d₀, d₁), d₂), d₃) => (d₀ <<< 12) ||| (d₁ <<< 8) ||| (d₂ <<< 4) ||| d₃

/-- The character with a code, if there is one. -/
def scalar (code : UInt32) : Grammar Char ρ Char :=
  if h : code.isValidChar then retn ⟨code, h⟩ else fail.label "unicode scalar value"

/-- The four digits of an escaped character. -/
def unicodeEscape : Grammar Char ρ Char :=
  ((((hexDigit.both hexDigit).both hexDigit).both hexDigit).map codeOf).bind scalar

/-- What may stand behind a backslash. -/
def escapes : List (Grammar Char ρ Char) := [
  chr '"',
  chr '\\',
  chr '/',
  (chr 'b').seqRight (retn '\x08'),
  (chr 'f').seqRight (retn '\x0c'),
  (chr 'n').seqRight (retn '\n'),
  (chr 'r').seqRight (retn '\r'),
  (chr 't').seqRight (retn '\t'),
  (chr 'u').seqRight unicodeEscape]

/-- A character behind a backslash. -/
def escape : Grammar Char ρ Char := (choice escapes).label "escape character"

/-- A character of a text: an escape, or one that needs none. -/
def character : Grammar Char ρ Char := ((chr '\\').seqRight escape).orElse (noneOf "\"\\")

/-- A text in quotes. -/
def text : Grammar Char ρ String :=
  lexeme (between (chr '"') (chr '"') (character.many.map String.ofList))

/-! ## Values -/

/-- The rule that values refer to. -/
inductive Ref : Type → Type where
  /-- A value. -/
  | value : Ref Node

/-- Items between marks, with commas between them. -/
def listed {α : Type} (opening closing : Char) (item : Grammar Char ρ α) :
    Grammar Char ρ (List α) :=
  between (lexeme (chr opening)) (lexeme (chr closing)) (item.sepBy (lexeme (chr ',')))

/-- The null. -/
def null : Grammar Char Ref Node := ((lexeme (literal "null")).map fun _ => .null).label "null"

/-- A truth value. -/
def boolean : Grammar Char Ref Node :=
  ((lexeme (((literal "true").map fun _ => true).orElse
    ((literal "false").map fun _ => false))).map .bool).label "boolean"

/-- A number. -/
def number : Grammar Char Ref Node := ((lexeme decimal).map .number).label "number"

/-- An array. -/
def array : Grammar Char Ref Node := ((listed '[' ']' (ref .value)).map .array).label "array"

/-- A name and its value. -/
def member : Grammar Char Ref (String × Node) :=
  text.bind fun name =>
    ((lexeme (chr ':')).seqRight (ref .value)).map fun node => (name, node)

/-- An object. -/
def object : Grammar Char Ref Node :=
  ((listed '\x7b' '\x7d' member).map ofMembers).label "object"

/-- The kinds of values. -/
def kinds : List (Grammar Char Ref Node) :=
  [null, boolean, number, (text.map .text).label "text", array, object]

/-- A value of any kind. -/
def value : Grammar Char Ref Node := (choice kinds).label "JSON value"

/-- A document: a value, with blanks before it. -/
def document : Grammar Char Ref Node := blanks.seqRight (ref .value)

/-- The definition of values. -/
def rules : Rules Char Ref where
  count := 1
  find {α} r := match α, r with
    | _, .value => .known value

end ParserKit.Json
