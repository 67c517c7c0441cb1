import ParserKit.Proofs.Number.Scale

/-!
# Exponents are words

The exponent of a decimal number is made of words: its digits are taken in one by one, by operations
that stop at the ends of the range, and so are the digits behind the point taken away from it. Only
the minus of the exponent is an operation that could leave the range. It does not, as the digits
alone are never below zero.

Digits are taken in as if the number grew without bounds: it never gets smaller with a further
digit, so having stopped at the end of the range on the way is the same as stopping there at last.

## Main definitions

* `Number.magnitudeWord`, `Number.exponentWord?`: the exponent by operations on words
* `Number.scaleWord`, `Number.powerWord`: the scale and the power of ten

## Main results

* `Number.toInt_magnitudeWord`: digits saturate exactly if the number that they spell does
* `Number.exists_exponentWord`, `Number.toInt_scaleWord`, `Number.toInt_powerWord`: words and
  integers agree
* `Grammar.exponent_saturates`: what is read as an exponent, and how it scales a number
-/

namespace ParserKit

/-! ## Operations on words -/

namespace Number

variable {digits : List Nat} {w v : Int32}

/-- The product of two words, or the end of the range that it exceeds. -/
def mulWord (v w : Int32) : Int32 := .ofIntClamp (v.toInt * w.toInt)

/-- The sum of two words, or the end of the range that it exceeds. -/
def addWord (v w : Int32) : Int32 := .ofIntClamp (v.toInt + w.toInt)

/-- The difference of two words, or the end of the range that it exceeds. -/
def subWord (v w : Int32) : Int32 := .ofIntClamp (v.toInt - w.toInt)

/-- A word with the other sign, or the end of the range if there is none. -/
def oppositeWord (w : Int32) : Int32 := .ofIntClamp (-w.toInt)

/-- The word with the other sign. The least word has none. -/
def negate? (w : Int32) : Option Int32 := if w = Int32.minValue then none else some (-w)

/-- The word of a natural number, if it is in range. -/
def wordOfNat? (n : Nat) : Option Int32 := if n < 2 ^ 31 then some (.ofNat n) else none

/-- The word that digits spell, the first one highest. -/
def magnitudeWord (digits : List Nat) : Int32 :=
  digits.foldl (fun acc d => addWord (mulWord acc 10) ((wordOfNat? d).getD 0)) 0

/-- The exponent that a row of digits spells. Nothing comes of it if a step leaves the range. -/
def exponentWord? (negative : Bool) (digits : List Nat) : Option Int32 :=
  if negative then negate? (magnitudeWord digits) else some (magnitudeWord digits)

/-- The scale of a mantissa with `fractionDigits` digits behind the point. -/
def scaleWord (exponent : Int32) (fractionDigits : Nat) : Int32 :=
  subWord exponent ((wordOfNat? fractionDigits).getD .maxValue)

/-- The exponent of the power of ten that scaling multiplies or divides by. -/
def powerWord (scale : Int32) : Int32 := if scale < 0 then oppositeWord scale else scale

/-! ## Words and integers -/

/-- The word nearest to a number, as a number. -/
theorem toInt_ofIntClamp_eq (n : Int) : (Int32.ofIntClamp n).toInt = clamp n := by
  simp only [Int32.ofIntClamp, clamp, maxWord_eq, minWord_eq, Int32.toInt_minValue,
    Int32.toInt_maxValue]
  split
  · split
    · rw [Int32.toInt_ofIntLE]
      omega
    · rw [Int32.toInt_maxValue]
      omega
  · rw [Int32.toInt_minValue]
    omega

theorem toInt_wordOfNat (v : Int32) {n : Nat} (h : n < 2 ^ 31) :
    ((wordOfNat? n).getD v).toInt = n := by
  rw [wordOfNat?, if_pos h, Option.getD_some, Int32.toInt_ofNat_of_lt h]

/-- A word is in range, and no digit is out of it. -/
theorem toInt_foldl_addWord (hdigits : ∀ d ∈ digits, d < 10) (acc : Int32) :
    (digits.foldl (fun acc d => addWord (mulWord acc 10) ((wordOfNat? d).getD 0)) acc).toInt =
      digits.foldl (fun (acc : Int) (d : Nat) => clamp (clamp (acc * 10) + d)) acc.toInt := by
  induction digits generalizing acc with
  | nil => rfl
  | cons d digits ih =>
    obtain ⟨hd, hdigits⟩ := List.forall_mem_cons.1 hdigits
    have hword : ((wordOfNat? d).getD 0).toInt = d := toInt_wordOfNat 0 (by omega)
    rw [List.foldl_cons, List.foldl_cons, ih hdigits, addWord, toInt_ofIntClamp_eq, mulWord,
      toInt_ofIntClamp_eq, hword]
    rfl

/-- The digits saturate exactly if the number that they spell is out of range. -/
theorem toInt_magnitudeWord (hdigits : ∀ d ∈ digits, d < 10) :
    (magnitudeWord digits).toInt = min ((Nat.ofDigits 10 digits.reverse : Nat) : Int) maxWord := by
  rw [magnitudeWord, toInt_foldl_addWord hdigits, ← foldl_clamp_eq]
  rfl

/-- A word that is not below zero has one with the other sign. -/
theorem exists_negate (hw : 0 ≤ w.toInt) : ∃ v, negate? w = some v ∧ v.toInt = -w.toInt := by
  have hne : w ≠ Int32.minValue := by
    rintro rfl
    exact absurd hw (by decide)
  have hlt := w.toInt_lt
  refine ⟨-w, if_neg hne, ?_⟩
  rw [Int32.toInt_neg]
  exact Int.bmod_eq_of_le (by omega) (by omega)

/-- The minus stays in range, since the digits are not below zero. -/
theorem exists_exponentWord (negative : Bool) (hdigits : ∀ d ∈ digits, d < 10) :
    ∃ w, exponentWord? negative digits = some w ∧ w.toInt = exponentOf negative digits := by
  have hmagnitude := toInt_magnitudeWord hdigits
  have hexponent : exponentOf negative digits =
      if negative then -(magnitudeWord digits).toInt else (magnitudeWord digits).toInt := by
    rw [hmagnitude, exponentOf, foldl_clamp_eq]
  have hnonneg : 0 ≤ (magnitudeWord digits).toInt := by
    rw [hmagnitude, maxWord_eq]
    omega
  rw [hexponent]
  cases negative with
  | false => exact ⟨_, rfl, rfl⟩
  | true => exact exists_negate hnonneg

/-- The scale by operations on words is the scale, as a fraction with more digits than a word can
count has the greatest word as its length. -/
theorem toInt_scaleWord (w : Int32) (fractionDigits : Nat) :
    (scaleWord w fractionDigits).toInt = scaleOf w.toInt fractionDigits := by
  have hdigits : ((wordOfNat? fractionDigits).getD .maxValue).toInt =
      min (fractionDigits : Int) maxWord := by
    by_cases h : fractionDigits < 2 ^ 31
    · rw [toInt_wordOfNat _ h, maxWord_eq]
      omega
    · rw [wordOfNat?, if_neg h, Option.getD_none, Int32.toInt_maxValue, maxWord_eq]
      omega
  rw [scaleWord, subWord, toInt_ofIntClamp_eq, hdigits, scaleOf]

/-- The power of ten is that of the scale without its sign, unless this is the least word. -/
theorem powerArg_scaleOf (exponent : Int) (fractionDigits : Nat) :
    powerArg (scaleOf exponent fractionDigits) =
      min (scaleOf exponent fractionDigits).natAbs (2 ^ 31 - 1) := by
  have hmax : scaleOf exponent fractionDigits ≤ maxWord := by
    simp only [scaleOf, clamp, maxWord_eq, minWord_eq]
    omega
  generalize scaleOf exponent fractionDigits = scale at hmax ⊢
  simp only [maxWord_eq] at hmax
  rw [powerArg]
  split
  · simp only [clamp, maxWord_eq, minWord_eq]
    omega
  · omega

/-- The power of ten by operations on words is that of the scale. -/
theorem toInt_powerWord (w : Int32) : (powerWord w).toInt = powerArg w.toInt := by
  have hmax := w.toInt_le
  rw [powerWord, powerArg]
  by_cases h : w.toInt < 0
  · rw [if_pos (Int32.lt_iff_toInt_lt.2 h), if_pos h, oppositeWord, toInt_ofIntClamp_eq]
    simp only [clamp, maxWord_eq, minWord_eq]
    omega
  · rw [if_neg fun hlt => h (Int32.lt_iff_toInt_lt.1 hlt), if_neg h]
    omega

end Number

/-! ## Exponents that are read -/

namespace Grammar

open Number

variable {ρ : Type → Type} (env : {α : Type} → ρ α → Parser Char α) {x : Char}
  {s ds r : List Char}

/-- A mark, a sign or none, and digits are read as an exponent. -/
theorem reads_signedExponent (hx : isMark x = true) (hs : s = [] ∨ s = ['+'] ∨ s = ['-'])
    (hne : ds ≠ []) (hds : ∀ y ∈ ds, isDecimal y = true)
    (hr : ∀ y ∈ r.head?, isDecimal y = false) :
    (exponent.toParser env).Reads (x :: (s ++ ds)) r
      (exponentOf (s == ['-']) (ds.map digitValue)) := by
  have hleading : leadingSign (s ++ (ds ++ r)) = s := by
    obtain rfl | rfl | rfl := hs
    · -- without a sign the digits stand first
      obtain ⟨y, ds, rfl⟩ := List.exists_cons_of_ne_nil hne
      exact leadingSign_of_isDecimal (hds y List.mem_cons_self) _
    · rfl
    · rfl
  have hsign := reads_sign env (s ++ (ds ++ r))
  rw [unsigned, hleading, List.drop_left] at hsign
  have hnumeral := hsign.both (reads_digits env hne hds hr)
  exact (((reads_mark env hx _).seqRight hnumeral).map _).optional.map _

/-- The exponent that a mark and digits spell is the number `n` of the digits, with its sign, or the
end of the range of words on that side. With a number of digits behind the point it gives a scale,
and this is its difference to that number, or the end of the range. The mantissa is multiplied or
divided by a power of ten whose exponent is the scale without its sign, or the greatest word. Each
of these is what the operations on words give, and the only one of them that may leave the range,
the minus of the exponent, does not. -/
theorem exponent_saturates (hx : isMark x = true) (hs : s = [] ∨ s = ['+'] ∨ s = ['-'])
    (hne : ds ≠ []) (hds : ∀ y ∈ ds, isDecimal y = true)
    (hr : ∀ y ∈ r.head?, isDecimal y = false) {c : Cursor Char}
    (hc : c.remaining = x :: (s ++ ds) ++ r) {n : Nat}
    (hn : n = Nat.ofDigits 10 (ds.map digitValue).reverse) :
    ∃ (w : Int32) (d : Cursor Char),
      (exponent.toParser env).Gives c true (.ok w.toInt d) ∧ d.remaining = r ∧
      exponentWord? (s == ['-']) (ds.map digitValue) = some w ∧
      w.toInt = (if s = ['-'] then -1 else 1) * min (n : Int) (2 ^ 31 - 1) ∧
      ∀ (negative : Bool) (whole fraction : List Nat), ∃ (scale : Int) (power : Nat),
        scale = max (-2 ^ 31) (min (w.toInt - min (fraction.length : Int) (2 ^ 31 - 1))
          (2 ^ 31 - 1)) ∧
        power = min scale.natAbs (2 ^ 31 - 1) ∧
        (scaleWord w fraction.length).toInt = scale ∧
        (powerWord (scaleWord w fraction.length)).toInt = power ∧
        assemble negative whole fraction w.toInt =
          let magnitude := if scale < 0 then mantissaOf (whole ++ fraction) / tenTo power
            else mantissaOf (whole ++ fraction) * tenTo power
          if negative then -magnitude else magnitude := by
  have hdigits : ∀ d ∈ ds.map digitValue, d < 10 :=
    List.forall_mem_map.2 fun y hy => digitValue_lt (hds y hy)
  obtain ⟨w, hw, hexponent⟩ := exists_exponentWord (s == ['-']) hdigits
  obtain ⟨d, -, hd, hgives⟩ := reads_signedExponent env hx hs hne hds hr c hc
  rw [← hexponent] at hgives
  refine ⟨w, d, hgives, hd, hw, ?_, fun negative whole fraction => ?_⟩
  · rw [hexponent, exponentOf, foldl_clamp_eq, ← hn, maxWord_eq]
    by_cases hminus : s = ['-']
    · simp [hminus]
    · simp [hminus]
  · refine ⟨scaleOf w.toInt fraction.length, powerArg (scaleOf w.toInt fraction.length), ?_, ?_,
      toInt_scaleWord w _, ?_, assemble_eq negative whole fraction w.toInt⟩
    · simp only [scaleOf, clamp, maxWord_eq, minWord_eq]
      rfl
    · exact powerArg_scaleOf _ _
    · rw [toInt_powerWord, toInt_scaleWord]

/-- An exponent far below the range, with zeros in front. Two digits behind the point put the scale
at the end of the range, from which no word with the other sign can be reached. -/
theorem exponent_saturates_below :
    ∃ (w : Int32) (d : Cursor Char),
      (exponent.toParser (fun r : Empty => r.elim)).Gives
        (.start 0 #['e', '-', '0', '0', '9', '9', '9', '9', '9', '9', '9', '9', '9', '9', 'x']) true
        (.ok w.toInt d) ∧
      d.remaining = ['x'] ∧ w.toInt = -2147483647 ∧
      (scaleWord w 2).toInt = -2147483648 ∧ (powerWord (scaleWord w 2)).toInt = 2147483647 := by
  have hc : (Cursor.start 0
      #['e', '-', '0', '0', '9', '9', '9', '9', '9', '9', '9', '9', '9', '9', 'x']).remaining =
        'e' :: (['-'] ++ ['0', '0', '9', '9', '9', '9', '9', '9', '9', '9', '9', '9']) ++ ['x'] :=
    rfl
  have hbehind : ∀ y ∈ ['x'].head?, isDecimal y = false := by
    rintro y ⟨⟩
    rfl
  obtain ⟨w, d, hgives, hd, -, hw, hall⟩ := exponent_saturates (fun r : Empty => r.elim)
    rfl (by decide) (by decide) (List.all_eq_true.1 rfl) hbehind hc rfl
  have hvalue : w.toInt = -2147483647 := hw.trans (by decide)
  obtain ⟨scale, power, hscale, hpower, hscaleWord, hpowerWord, -⟩ := hall false [1] [2, 5]
  rw [hvalue] at hscale
  have hscale' : scale = -2147483648 := hscale.trans (by decide)
  rw [hscale'] at hscaleWord hpower
  refine ⟨w, d, hgives, hd, hvalue, hscaleWord, hpowerWord.trans ?_⟩
  rw [hpower]
  rfl

end Grammar

end ParserKit
