import ParserKit.Number.Integer

/-!
# Decimal fractions

A decimal number with an optional fraction and an optional exponent, read into a double. The
digits before and after the point are taken in from the left, ten times what there is plus the
digit, each step rounded; the result is then multiplied or divided by a power of ten. Exponents
are signed 32-bit words and stop at the ends of their range.

The last step rounds too, so the result need not be the double nearest to the literal.

## Main definitions

* `Number.clamp`: the nearest number in the range of a signed 32-bit word
* `Number.exponentOf`, `Number.scaleOf`, `Number.powerArg`: exponent arithmetic
* `Number.tenTo`: powers of ten by repeated squaring
* `Number.assemble`: the double of a literal
* `Grammar.decimal`
-/

namespace ParserKit.Number

/-- The least signed 32-bit word. -/
def minWord : Int := Int32.minValue.toInt

/-- The greatest signed 32-bit word. -/
def maxWord : Int := Int32.maxValue.toInt

/-- The number of the range of a signed 32-bit word that is nearest to `n`. -/
def clamp (n : Int) : Int := max minWord (min n maxWord)

/-- The exponent that a row of digits spells. -/
def exponentOf (negative : Bool) (digits : List Nat) : Int :=
  let magnitude := digits.foldl (fun (acc : Int) (d : Nat) => clamp (clamp (acc * 10) + d)) 0
  if negative then -magnitude else magnitude

/-- The power of ten by which a mantissa with `fractionDigits` digits behind the point is
scaled. -/
def scaleOf (exponent : Int) (fractionDigits : Nat) : Int :=
  clamp (exponent - min (fractionDigits : Int) maxWord)

/-- The exponent of the power of ten that scaling multiplies or divides by. -/
def powerArg (scale : Int) : Nat :=
  if scale < 0 then (clamp (-scale)).toNat else scale.toNat

/-- `r * a ^ n` by repeated squaring, each product rounded. -/
def powerLoop (n : Nat) (a r : Float) : Float :=
  let r := if n % 2 = 1 then r * a else r
  if n / 2 = 0 then r else powerLoop (n / 2) (a * a) r
termination_by n
decreasing_by omega

/-- The `n`-th power of ten. -/
def tenTo (n : Nat) : Float := powerLoop n 10 1

/-- The mantissa that a row of digits spells. -/
def mantissaOf (digits : List Nat) : Float :=
  digits.foldl (fun acc d => acc * 10 + Float.ofNat d) 0

/-- The double of a literal: its sign, the digits before and after the point, its exponent. -/
def assemble (negative : Bool) (whole fraction : List Nat) (exponent : Int) : Float :=
  let mantissa := mantissaOf (whole ++ fraction)
  let scale := scaleOf exponent fraction.length
  let power := tenTo (powerArg scale)
  let magnitude := if scale < 0 then mantissa / power else mantissa * power
  if negative then -magnitude else magnitude

end ParserKit.Number

namespace ParserKit.Grammar

variable {ρ : Type → Type}

/-- The label of a decimal number. -/
def numberLabel : String := "number"

/-- The digits behind a point, if there is one. -/
def fraction : Grammar Char ρ (List Nat) :=
  (((chr '.').seqRight digits).optional).map (·.getD [])

/-- The exponent, if there is one. -/
def exponent : Grammar Char ρ Int :=
  ((((oneOf "eE").seqRight (sign.both digits)).map fun (negative, ds) =>
    Number.exponentOf negative ds).optional).map (·.getD 0)

/-- A signed decimal number. Digits before the point are required. -/
def decimal : Grammar Char ρ Float :=
  ((((sign.both digits).both fraction).both exponent).map
    fun (((negative, whole), frac), exp) => Number.assemble negative whole frac exp).label
      numberLabel

end ParserKit.Grammar
