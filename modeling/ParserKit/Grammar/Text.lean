import ParserKit.Grammar.Basic
import ParserKit.Text.Alphabetic
import ParserKit.Text.Blank

/-!
# Grammars over characters

Single characters, literals and blanks. A label quotes what it stands for.

## Main definitions

* `Grammar.chr`, `Grammar.letter`, `Grammar.digit`, `Grammar.alphaNum`, `Grammar.space`,
  `Grammar.oneOf`, `Grammar.noneOf`: one character
* `Grammar.literal`: a given string
* `Grammar.blanks`, `Grammar.lexeme`: blanks, and a grammar followed by blanks
-/

namespace ParserKit.Grammar

open Text

variable {ρ : Type → Type} {α : Type}

/-- Whether a character is one of the digits 0 to 9. -/
def isDecimal (c : Char) : Bool := decide ('0' ≤ c) && decide (c ≤ '9')

/-- The character `c`. -/
def chr (c : Char) : Grammar Char ρ Char := (satisfy (· == c)).label (quoteChar c)

/-- An alphabetic character. -/
def letter : Grammar Char ρ Char := (satisfy isAlphabetic).label "letter"

/-- A decimal digit. -/
def digit : Grammar Char ρ Char := (satisfy isDecimal).label "digit"

/-- An alphabetic character or a decimal digit. -/
def alphaNum : Grammar Char ρ Char :=
  (satisfy fun c => isAlphabetic c || isDecimal c).label "letter or digit"

/-- A blank. -/
def space : Grammar Char ρ Char := (satisfy isBlank).label "whitespace"

/-- A character of `chars`. -/
def oneOf (chars : String) : Grammar Char ρ Char :=
  (satisfy chars.toList.contains).label ("one of " ++ quoteString chars)

/-- A character that is not in `chars`. -/
def noneOf (chars : String) : Grammar Char ρ Char :=
  (satisfy fun c => !chars.toList.contains c).label ("none of " ++ quoteString chars)

/-- The characters of `cs` one after the other. -/
def chars (cs : List Char) : Grammar Char ρ Unit :=
  cs.foldl (fun before c => (before.seqRight (chr c)).map fun _ => ()) (retn ())

/-- The string `text`. A mismatch behind the first character is a failure after consumption and
expects the character there; one at the first character expects the whole string. -/
def literal (text : String) : Grammar Char ρ String :=
  ((chars text.toList).map fun _ => text).label (quoteString text)

/-- Any number of blanks. -/
def blanks : Grammar Char ρ Unit := space.skipMany

/-- `p` and the blanks behind it. -/
def lexeme (p : Grammar Char ρ α) : Grammar Char ρ α := p.seqLeft blanks

end ParserKit.Grammar
