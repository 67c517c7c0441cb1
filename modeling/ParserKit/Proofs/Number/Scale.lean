import Mathlib.Data.Nat.Digits.Lemmas
import ParserKit.Proofs.Number.Decimal

/-!
# Decimal numbers without a value

A decimal number becomes a double in two parts, the mantissa and a power of ten, and these leave the
range of doubles one by one. A mantissa of 310 digits is infinite, and so is the power of ten from
309 on. Hence there are numbers whose value is in range while the last step multiplies zero by an
infinite power, or divides one infinite number by another, and the double is not a number.

Which numbers these are is told by the text. The exponent is a saturated word and so is the count of
the digits behind the point, and the scale is their difference, once more saturated. An exponent far
from zero is as good as one at the end of the range, so this changes only the numbers with about
`2 ^ 31` digits behind the point.

## Main definitions

* `Number.lastStep`: how a mantissa is scaled
* `Number.Indeterminate mantissa scale`: zero times infinity, or infinity divided by infinity
* `Grammar.mantissaDigits`, `Grammar.writtenExponent`: the digits and the exponent of a number

## Main results

* `Number.exponentOf_eq`: an exponent saturates exactly if the number that is written does
* `Number.pow_le_ofDigits_iff`: the size of a number is told by the count of its digits
* `Grammar.decimal_indeterminate_iff`: which decimal numbers come to this
-/

namespace ParserKit

/-! ## Exponents -/

namespace Number

variable {negative : Bool} {digits : List Nat} {n fractionDigits : Nat}

theorem maxWord_eq : maxWord = 2147483647 := rfl

theorem minWord_eq : minWord = -2147483648 := rfl

/-- One digit more makes ten times the number and the digit. -/
theorem ofDigits_reverse_concat (digits : List Nat) (digit : Nat) :
    Nat.ofDigits 10 (digits ++ [digit]).reverse = Nat.ofDigits 10 digits.reverse * 10 + digit := by
  rw [List.reverse_append, List.reverse_singleton, List.singleton_append, Nat.ofDigits_cons]
  omega

/-- The digits saturate step by step exactly if the number that they spell is out of range. -/
theorem foldl_clamp_eq (digits : List Nat) :
    digits.foldl (fun (acc : Int) (d : Nat) => clamp (clamp (acc * 10) + d)) 0 =
      min ((Nat.ofDigits 10 digits.reverse : Nat) : Int) maxWord := by
  induction digits using List.reverseRecOn with
  | nil => rfl
  | append_singleton digits digit ih =>
    rw [List.foldl_append, List.foldl_cons, List.foldl_nil, ih, ofDigits_reverse_concat]
    simp only [clamp, maxWord_eq, minWord_eq]
    omega

/-- An exponent is the number that is written, or the end of the range on its side. -/
theorem exponentOf_eq (negative : Bool) (digits : List Nat) :
    exponentOf negative digits = max (-maxWord) (min (spelled negative digits) maxWord) := by
  simp only [exponentOf, spelled, foldl_clamp_eq, maxWord_eq]
  cases negative
  · simp
  · simp
    omega

/-- A scale is large if the exponent exceeds the digits behind the point by as much. An exponent out
of range counts as the greatest word. -/
theorem le_scaleOf_iff {exponent : Int} :
    309 ≤ scaleOf (max (-maxWord) (min exponent maxWord)) fractionDigits ↔
      (fractionDigits : Int) + 309 ≤ min exponent maxWord := by
  simp only [scaleOf, clamp, maxWord_eq, minWord_eq]
  omega

/-- It is small if the digits behind the point exceed the exponent by as much, and these count as
the greatest word if there are more. -/
theorem scaleOf_le_iff {exponent : Int} :
    scaleOf (max (-maxWord) (min exponent maxWord)) fractionDigits ≤ -309 ↔
      exponent + 309 ≤ min (fractionDigits : Int) maxWord := by
  simp only [scaleOf, clamp, maxWord_eq, minWord_eq]
  omega

/-! ## Mantissas -/

/-- The last step to a double: the mantissa that the digits spell is multiplied or divided by a
power of ten. -/
def lastStep (negative : Bool) (digits : List Nat) (scale : Int) : Float :=
  let mantissa := mantissaOf digits
  let power := tenTo (powerArg scale)
  let magnitude := if scale < 0 then mantissa / power else mantissa * power
  if negative then -magnitude else magnitude

/-- All of a literal but the last step is done on digits and words. -/
theorem assemble_eq (negative : Bool) (whole fraction : List Nat) (exponent : Int) :
    assemble negative whole fraction exponent =
      lastStep negative (whole ++ fraction) (scaleOf exponent fraction.length) := rfl

/-- The mantissa is zero and the power of ten infinite; or the mantissa has 310 digits or more, so
that it is infinite, and so is the power that it is divided by. -/
def Indeterminate (mantissa : Nat) (scale : Int) : Prop :=
  mantissa = 0 ∧ 309 ≤ scale ∨ 10 ^ 309 ≤ mantissa ∧ scale ≤ -309

/-- Digits spell zero if they are zeros. -/
theorem ofDigits_eq_zero_iff : Nat.ofDigits 10 digits.reverse = 0 ↔ ∀ d ∈ digits, d = 0 := by
  constructor
  · intro h d hd
    exact Nat.digits_zero_of_eq_zero (by norm_num) h d (List.mem_reverse.2 hd)
  · intro h
    rw [List.eq_replicate_of_mem fun d hd => h d (List.mem_reverse.1 hd)]
    exact Nat.ofDigits_replicate_zero

/-- Zeros in front do not count. -/
theorem ofDigits_dropWhile (digits : List Nat) :
    Nat.ofDigits 10 (digits.dropWhile (· == 0)).reverse = Nat.ofDigits 10 digits.reverse := by
  induction digits with
  | nil => rfl
  | cons d digits ih =>
    by_cases hd : d = 0
    · subst hd
      rw [List.dropWhile_cons_of_pos rfl, ih, List.reverse_cons, Nat.ofDigits_append]
      simp
    · rw [List.dropWhile_cons_of_neg (by simpa using hd)]

/-- A number is at least a power of ten exactly if it has more digits than the exponent says, not
counting the zeros in front. -/
theorem pow_le_ofDigits_iff (hdigits : ∀ d ∈ digits, d < 10) :
    10 ^ n ≤ Nat.ofDigits 10 digits.reverse ↔ n < (digits.dropWhile (· == 0)).length := by
  rw [← ofDigits_dropWhile]
  generalize hs : digits.dropWhile (· == 0) = s
  have hlt : ∀ d ∈ s.reverse, d < 10 := fun d hd =>
    hdigits d ((List.dropWhile_suffix _).subset (hs ▸ List.mem_reverse.1 hd))
  constructor
  · intro h
    have hbound := Nat.ofDigits_lt_base_pow_length (by norm_num) hlt
    rw [List.length_reverse] at hbound
    exact (Nat.pow_lt_pow_iff_right (by norm_num)).1 (Nat.lt_of_le_of_lt h hbound)
  · intro h
    have hne : s ≠ [] := List.ne_nil_of_length_pos (Nat.zero_lt_of_lt h)
    have hhead : s.reverse.getLast (mt List.reverse_eq_nil_iff.1 hne) ≠ 0 := by
      rw [List.getLast_reverse]
      subst hs
      simpa using List.head_dropWhile_not (· == 0) hne
    have hbound := Nat.pow_length_le_mul_ofDigits (b := 8) _ hhead
    rw [List.length_reverse] at hbound
    have hpow : 10 ^ (n + 1) ≤ 10 ^ s.length := Nat.pow_le_pow_right (by norm_num) h
    have : 10 ^ (n + 1) ≤ 10 * Nat.ofDigits 10 s.reverse := hpow.trans hbound
    omega

end Number

/-! ## Literals -/

namespace Grammar

open Number

variable {ρ : Type → Type} (env : {α : Type} → ρ α → Parser Char α) {text : List Char}

/-- The digits of the number that a text begins with, before the point and behind it. -/
def mantissaDigits (text : List Char) : List Char :=
  leadingDigits text ++ (leadingFraction (undigited text)).tail

/-- The natural number that these digits spell. -/
def leadingMantissa (text : List Char) : Nat :=
  Nat.ofDigits 10 ((mantissaDigits text).map digitValue).reverse

/-- How many of them are behind the point. -/
def fractionLength (text : List Char) : Nat := (leadingFraction (undigited text)).tail.length

/-- The exponent that the text of an exponent spells, in range or not. -/
def writtenExponent : List Char → Int
  | [] => 0
  | x :: r => if isMark x then leadingInteger r else 0

/-- The exponent of the number that a text begins with, as it is written. -/
def leadingPower (text : List Char) : Int := writtenExponent (unpointed (undigited text))

/-- The scale of the number that a text begins with. -/
def leadingScale (text : List Char) : Int :=
  scaleOf (exponentValue (unpointed (undigited text))) (fractionLength text)

/-- The double of a literal is that of the last step, from all its digits and the scale. -/
theorem leadingDouble_eq (text : List Char) :
    leadingDouble text = lastStep (leadingSign text == ['-'])
      ((mantissaDigits text).map digitValue) (leadingScale text) := by
  rw [leadingDouble, assemble_eq, ← List.map_append, List.length_map]
  rfl

/-- The exponent of a text is the one that is written there, or the end of the range. -/
theorem exponentValue_eq (text : List Char) :
    exponentValue text = max (-maxWord) (min (writtenExponent text) maxWord) := by
  cases text with
  | nil => rfl
  | cons x r =>
    rw [exponentValue, writtenExponent]
    split
    · exact exponentOf_eq _ _
    · rfl

theorem isDecimal_of_mem_mantissaDigits (text : List Char) :
    ∀ x ∈ mantissaDigits text, isDecimal x = true := by
  intro x hx
  obtain hx | hx := List.mem_append.1 hx
  · exact isDecimal_of_mem_leadingDigits text x hx
  · obtain ⟨r, -, hf, -⟩ | ⟨-, hf, -⟩ := leadingFraction_cases (undigited text)
    · rw [hf] at hx
      exact List.mem_takeWhile_imp hx
    · rw [hf] at hx
      cases hx

/-- The digits by their codes. -/
theorem isDecimal_iff {x : Char} : isDecimal x = true ↔ 48 ≤ x.toNat ∧ x.toNat ≤ 57 := by
  rw [isDecimal, Bool.and_eq_true, decide_eq_true_iff, decide_eq_true_iff]
  exact Iff.rfl

theorem digitValue_lt {x : Char} (h : isDecimal x = true) : digitValue x < 10 := by
  obtain ⟨-, hmax⟩ := isDecimal_iff.1 h
  show x.toNat - 48 < 10
  omega

theorem digitValue_eq_zero_iff {x : Char} (h : isDecimal x = true) :
    digitValue x = 0 ↔ x = '0' := by
  obtain ⟨hmin, -⟩ := isDecimal_iff.1 h
  have hvalue : digitValue x = 0 ↔ x.toNat = '0'.toNat := by
    show x.toNat - 48 = 0 ↔ x.toNat = 48
    omega
  exact hvalue.trans Char.toNat_inj

/-- The mantissa of a text is zero if all of its digits are. -/
theorem leadingMantissa_eq_zero_iff (text : List Char) :
    leadingMantissa text = 0 ↔ ∀ x ∈ mantissaDigits text, x = '0' := by
  rw [leadingMantissa, ofDigits_eq_zero_iff, List.forall_mem_map]
  exact forall₂_congr fun x hx => digitValue_eq_zero_iff (isDecimal_of_mem_mantissaDigits text x hx)

/-- The zeros in front are the same ones before and after digits are turned into numbers. -/
theorem dropWhile_map_digitValue (h : ∀ x ∈ text, isDecimal x = true) :
    (text.map digitValue).dropWhile (· == 0) = (text.dropWhile (· == '0')).map digitValue := by
  induction text with
  | nil => rfl
  | cons x text ih =>
    obtain ⟨hx, htext⟩ := List.forall_mem_cons.1 h
    have hzero : (digitValue x == 0) = (x == '0') :=
      Bool.eq_iff_iff.2 (by simpa using digitValue_eq_zero_iff hx)
    rw [List.map_cons, List.dropWhile_cons, List.dropWhile_cons, hzero, ih htext]
    split <;> rfl

/-- The size of a mantissa is told by the number of digits behind the zeros in front. -/
theorem pow_le_leadingMantissa_iff {n : Nat} (text : List Char) :
    10 ^ n ≤ leadingMantissa text ↔ n < ((mantissaDigits text).dropWhile (· == '0')).length := by
  have hdigits := isDecimal_of_mem_mantissaDigits text
  rw [leadingMantissa, pow_le_ofDigits_iff, dropWhile_map_digitValue hdigits, List.length_map]
  exact List.forall_mem_map.2 fun x hx => digitValue_lt (hdigits x hx)

/-- A decimal number that is read is made in the last step from the digits and the scale at the
front of the text. It is zero times infinity exactly if all digits are zeros and the exponent, as it
is written, exceeds the digits behind the point by 309 or more. It is infinity divided by infinity
if there are more than 309 digits behind the zeros in front and those behind the point exceed the
exponent by 309 or more. Exponents and digits behind the point beyond the greatest word count as the
greatest word. -/
theorem decimal_indeterminate_iff {c d : Cursor Char} {consumed : Bool} {x : Float}
    (h : (decimal.toParser env).Gives c consumed (.ok x d)) :
    x = lastStep (leadingSign c.remaining == ['-']) ((mantissaDigits c.remaining).map digitValue)
      (leadingScale c.remaining) ∧
    (Indeterminate (leadingMantissa c.remaining) (leadingScale c.remaining) ↔
      ((∀ y ∈ mantissaDigits c.remaining, y = '0') ∧
        (fractionLength c.remaining : Int) + 309 ≤ min (leadingPower c.remaining) maxWord) ∨
      (309 < ((mantissaDigits c.remaining).dropWhile (· == '0')).length ∧
        leadingPower c.remaining + 309 ≤ min (fractionLength c.remaining : Int) maxWord)) := by
  obtain ⟨-, -, -, hx⟩ := decimal_parts_of_gives env h
  refine ⟨hx.trans (leadingDouble_eq _), ?_⟩
  rw [Indeterminate, leadingMantissa_eq_zero_iff, pow_le_leadingMantissa_iff, leadingScale,
    exponentValue_eq, le_scaleOf_iff, scaleOf_le_iff]
  rfl

/-- `0.5e2` is read, and neither are its digits all zeros nor are there as many as 310. -/
theorem decimal_indeterminate_of_half :
    ∃ x d, decimalAlone.Gives (.start 0 #['0', '.', '5', 'e', '2']) true (.ok x d) ∧
      ¬ Indeterminate (leadingMantissa ['0', '.', '5', 'e', '2'])
        (leadingScale ['0', '.', '5', 'e', '2']) := by
  have hne : leadingDigits ['0', '.', '5', 'e', '2'] ≠ [] := by decide
  have hreads := reads_decimal (fun r : Empty => r.elim) hne (by decide) (by decide)
  obtain ⟨d, -, -, hgives⟩ :=
    hreads.exists_gives (by decide) (c := .start 0 #['0', '.', '5', 'e', '2']) rfl
  refine ⟨_, d, hgives, fun h => ?_⟩
  obtain ⟨hzero, -⟩ | ⟨hlong, -⟩ := (decimal_indeterminate_iff _ hgives).2.1 h
  · cases hzero '5' (by decide)
  · exact absurd hlong (by decide)

/-- `0e309` is zero, but it is read as zero times an infinite power, which is not a number. -/
theorem decimal_indeterminate_at_zero :
    ∃ x d, decimalAlone.Gives (.start 0 #['0', 'e', '3', '0', '9']) true (.ok x d) ∧
      leadingMantissa ['0', 'e', '3', '0', '9'] = 0 ∧
      leadingScale ['0', 'e', '3', '0', '9'] = 309 ∧ x.isNaN = true := by
  have hne : leadingDigits ['0', 'e', '3', '0', '9'] ≠ [] := by decide
  have hreads := reads_decimal (fun r : Empty => r.elim) hne (by decide) (by decide)
  obtain ⟨d, -, -, hgives⟩ :=
    hreads.exists_gives (by decide) (c := .start 0 #['0', 'e', '3', '0', '9']) rfl
  exact ⟨_, d, hgives, by decide, by decide, by decide +kernel⟩

end Grammar

end ParserKit
