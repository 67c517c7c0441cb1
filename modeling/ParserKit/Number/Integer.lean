import ParserKit.Grammar.Text

/-!
# Integers

A decimal integer with an optional sign, read into a signed 64-bit word. The digits are taken
in from the left; as soon as the number leaves the range of the word the literal is rejected,
behind its last digit.

## Main definitions

* `Number.ofDigits?`: the word that a row of digits spells, if it is in range
* `Grammar.sign`, `Grammar.digits`, `Grammar.integer`
-/

namespace ParserKit.Number

/-- The word of an integer, if it is in range. -/
def word? (n : Int) : Option Int64 :=
  if Int64.minValue.toInt ≤ n ∧ n ≤ Int64.maxValue.toInt then some (Int64.ofInt n) else none

/-- Ten times the word, if it is in range. -/
def shift? (acc : Int64) : Option Int64 := word? (acc.toInt * 10)

/-- Put one more digit behind a number. -/
def push? (negative : Bool) (acc : Int64) (digit : Nat) : Option Int64 := do
  let shifted ← shift? acc
  if negative then word? (shifted.toInt - digit) else word? (shifted.toInt + digit)

/-- The number that the digits spell, the first one highest. -/
def ofDigits? (negative : Bool) (digits : List Nat) : Option Int64 :=
  digits.foldlM (push? negative) 0

/-- The value of a decimal digit. -/
def digitValue (c : Char) : Nat := c.toNat - '0'.toNat

end ParserKit.Number

namespace ParserKit.Grammar

variable {ρ : Type → Type}

/-- The label of an integer. -/
def integerLabel : String := "integer"

/-- The label of an integer that does not fit. -/
def integerRangeLabel : String := "integer within i64 range"

/-- An optional sign; whether it is a minus. -/
def sign : Grammar Char ρ Bool := ((oneOf "+-").map (· == '-')).orElse (retn false)

/-- A row of decimal digits, as numbers. -/
def digits : Grammar Char ρ (List Nat) := (digit.map Number.digitValue).many1

/-- A signed decimal integer. -/
def integer : Grammar Char ρ Int64 :=
  (sign.bind fun negative => digits.bind fun ds =>
    match Number.ofDigits? negative ds with
    | some n => retn n
    | none => fail.label integerRangeLabel).label integerLabel

end ParserKit.Grammar
