import Mathlib.Data.List.Induction
import Mathlib.Data.List.TakeWhile
import Mathlib.Data.Nat.Digits.Defs
import ParserKit.Number.Integer
import ParserKit.Proofs.Parser.Missing

/-!
# Integers are read exactly

The digits of an integer are taken into a word one by one, and each step checks that the word does
not leave its range. A number with one digit more is no closer to zero, and on the side of its sign.
So a step fails only where the whole literal is out of range, also at the ends of the range, which
are not equally far from zero; and zeros in front change nothing.

Which symbols belong to the literal is told by the text: a sign, if there is one, and the digits
behind it, as many as there are. The failures differ in whether input was consumed: without sign and
digits an integer is missing; behind a sign a digit is, for the sign was read; and behind digits the
literal is rejected as a whole.

## Main definitions

* `Number.spelled negative digits`: the integer that is written with the digits
* `Grammar.leadingSign`, `Grammar.leadingDigits`: the literal at the front of a text

## Main results

* `Number.ofDigits?_eq_some_iff`: digits are rejected iff the integer they spell has no word
* `Grammar.integer_exact`: what the grammar of integers does, on every input
-/

namespace ParserKit

/-! ## Words -/

namespace Number

variable {negative : Bool} {digits : List Nat} {n : Int} {w acc : Int64}

/-- The integer that is written with the digits, the first one highest, behind a sign. -/
def spelled (negative : Bool) (digits : List Nat) : Int :=
  let magnitude : Nat := Nat.ofDigits 10 digits.reverse
  if negative then -magnitude else magnitude

/-- A digit as it counts behind a sign. -/
def signed (negative : Bool) (digit : Nat) : Int := if negative then -digit else digit

/-- The numbers that have a word are those in range. -/
theorem exists_word_iff : (∃ w : Int64, w.toInt = n) ↔ -2 ^ 63 ≤ n ∧ n ≤ 2 ^ 63 - 1 := by
  constructor
  · rintro ⟨w, rfl⟩
    exact ⟨w.le_toInt, Int.le_sub_one_of_lt w.toInt_lt⟩
  · rintro ⟨hmin, hmax⟩
    exact ⟨.ofInt n, Int64.toInt_ofInt_of_le hmin (Int.lt_of_le_sub_one hmax)⟩

theorem word?_eq_some_iff : word? n = some w ↔ w.toInt = n := by
  rw [word?, Int64.toInt_minValue, Int64.toInt_maxValue]
  split
  · next h =>
    obtain ⟨v, rfl⟩ := exists_word_iff.2 h
    rw [Int64.ofInt_toInt, Option.some_inj, Int64.toInt_inj, eq_comm]
  · next h => exact ⟨nofun, fun hw => absurd (exists_word_iff.1 ⟨w, hw⟩) h⟩

/-- A digit is put behind a number if ten times the number is in range, and the new number is. -/
theorem push?_eq_some_iff {digit : Nat} :
    push? negative acc digit = some w ↔ (∃ shifted : Int64, shifted.toInt = acc.toInt * 10) ∧
      w.toInt = acc.toInt * 10 + signed negative digit := by
  have hpush (shifted : Int64) :
      (if negative then word? (shifted.toInt - digit) else word? (shifted.toInt + digit)) = some w ↔
        w.toInt = shifted.toInt + signed negative digit := by
    cases negative <;> simp [word?_eq_some_iff, signed, Int.sub_eq_add_neg]
  simp only [push?, shift?, Option.bind_eq_bind, Option.bind_eq_some_iff, word?_eq_some_iff, hpush]
  constructor
  · rintro ⟨shifted, hshifted, hw⟩
    exact ⟨⟨shifted, hshifted⟩, hshifted ▸ hw⟩
  · rintro ⟨⟨shifted, hshifted⟩, hw⟩
    exact ⟨shifted, hshifted, hshifted ▸ hw⟩

/-- One digit more makes ten times the number and the digit, with the sign of the number. The last
digit is the lowest one. -/
theorem spelled_concat (negative : Bool) (digits : List Nat) (digit : Nat) :
    spelled negative (digits ++ [digit]) =
      spelled negative digits * 10 + signed negative digit := by
  cases negative <;> simp [spelled, signed, Nat.ofDigits_cons] <;> omega

/-- If a number is that of a word, so is the one without its last digit, and ten times that. -/
theorem exists_word_of_concat {digit : Nat} (hw : w.toInt = spelled negative (digits ++ [digit])) :
    (∃ acc : Int64, acc.toInt = spelled negative digits) ∧
      ∃ shifted : Int64, shifted.toInt = spelled negative digits * 10 := by
  obtain ⟨hmin, hmax⟩ := exists_word_iff.1 ⟨w, hw⟩
  rw [spelled_concat] at hmin hmax
  -- the number and the digit are on the same side of zero
  have hside : (0 ≤ spelled negative digits ∧ 0 ≤ signed negative digit) ∨
      (spelled negative digits ≤ 0 ∧ signed negative digit ≤ 0) := by
    cases negative <;> simp [spelled, signed]
  exact ⟨exists_word_iff.2 (by omega), exists_word_iff.2 (by omega)⟩

/-- A row with one digit more is in range if the row is and the step from there is. -/
theorem ofDigits?_concat (negative : Bool) (digits : List Nat) (digit : Nat) :
    ofDigits? negative (digits ++ [digit]) =
      (ofDigits? negative digits).bind fun acc => push? negative acc digit := by
  simp [ofDigits?, List.foldlM_append]

/-- The digits are taken into a word exactly if the integer that they spell is that of a word, and
then it is that word. -/
theorem ofDigits?_eq_some_iff :
    ofDigits? negative digits = some w ↔ w.toInt = spelled negative digits := by
  induction digits using List.reverseRecOn generalizing w with
  | nil =>
    have hzero : spelled negative [] = (0 : Int64).toInt := by cases negative <;> rfl
    rw [hzero, Int64.toInt_inj, eq_comm]
    exact Option.some_inj
  | append_singleton digits digit ih =>
    simp only [ofDigits?_concat, Option.bind_eq_some_iff, ih, push?_eq_some_iff]
    constructor
    · rintro ⟨acc, hacc, -, hw⟩
      rw [spelled_concat, ← hacc]
      exact hw
    · intro hw
      -- a prefix out of range would put the whole out of range
      obtain ⟨⟨acc, hacc⟩, hshifted⟩ := exists_word_of_concat hw
      rw [spelled_concat, ← hacc] at hw
      exact ⟨acc, hacc, hacc ▸ hshifted, hw⟩

end Number

/-! ## Literals -/

namespace Grammar

variable {ρ : Type → Type} (env : {α : Type} → ρ α → Parser Char α) {ds r : List Char}
  {negative : Bool}

/-- The sign that a text begins with, if there is one. -/
def leadingSign : List Char → List Char
  | '+' :: _ => ['+']
  | '-' :: _ => ['-']
  | _ => []

/-- What is behind the sign of a text. -/
def unsigned (text : List Char) : List Char := text.drop (leadingSign text).length

/-- The digits behind the sign of a text, as many as there are. -/
def leadingDigits (text : List Char) : List Char := (unsigned text).takeWhile isDecimal

/-- What is behind those digits. -/
def undigited (text : List Char) : List Char := (unsigned text).dropWhile isDecimal

/-- The integer that a text begins with. -/
def leadingInteger (text : List Char) : Int :=
  Number.spelled (leadingSign text == ['-']) ((leadingDigits text).map Number.digitValue)

/-- A digit is no sign. -/
theorem leadingSign_of_isDecimal {x : Char} (hx : isDecimal x = true) (r : List Char) :
    leadingSign (x :: r) = [] := by
  rw [leadingSign]
  · rintro _ ⟨⟩
    cases hx
  · rintro _ ⟨⟩
    cases hx

/-- A text is its sign and what follows. -/
theorem leadingSign_append_unsigned (text : List Char) :
    leadingSign text ++ unsigned text = text := by
  unfold unsigned leadingSign
  split <;> rfl

/-- What follows is the digits and the rest. -/
theorem leadingDigits_append_undigited (text : List Char) :
    leadingDigits text ++ undigited text = unsigned text :=
  List.takeWhile_append_dropWhile

theorem isDecimal_of_mem_leadingDigits (text : List Char) :
    ∀ x ∈ leadingDigits text, isDecimal x = true :=
  fun _ => List.mem_takeWhile_imp

/-- Behind the digits at the front of a text there is no digit. -/
theorem not_isDecimal_dropWhile (text : List Char) :
    ∀ x ∈ (text.dropWhile isDecimal).head?, isDecimal x = false := by
  intro x hx
  have h := List.head?_dropWhile_not isDecimal text
  rw [show (text.dropWhile isDecimal).head? = some x from hx] at h
  exact h

theorem not_isDecimal_undigited (text : List Char) :
    ∀ x ∈ (undigited text).head?, isDecimal x = false :=
  not_isDecimal_dropWhile (unsigned text)

/-- A sign is read if there is one, and then the digits stand next. -/
theorem reads_sign (text : List Char) :
    (sign.toParser env).Reads (leadingSign text) (unsigned text) (leadingSign text == ['-']) := by
  have hsigns : "+-".toList = ['+', '-'] := rfl
  have hone {x : Char} (hx : "+-".toList.contains x = true) (r : List Char) :
      (sign.toParser env).Reads [x] r (x == '-') :=
    (((Parser.reads_satisfy _ hx r).label _).map _).orElse _
  unfold unsigned leadingSign
  split
  · exact hone rfl _
  · exact hone rfl _
  · next hplus hminus =>
    have hnone : ((oneOf "+-").toParser env).Rejects text := by
      refine (Parser.rejects_satisfy fun x hx => ?_).label _
      -- a sign at the front would have been one of the cases before
      obtain ⟨u, rfl⟩ := List.head?_eq_some_iff.1 hx
      have hx' : x ≠ '+' ∧ x ≠ '-' := ⟨fun h => hplus u (h ▸ rfl), fun h => hminus u (h ▸ rfl)⟩
      simp [hsigns, hx']
    exact (hnone.map _).orElse_reads (Parser.reads_retn false text)

/-- Digits are read up to what is none. The first one is needed, the others are read as long as
there are any. -/
theorem reads_digits (hne : ds ≠ []) (hds : ∀ x ∈ ds, isDecimal x = true)
    (hr : ∀ x ∈ r.head?, isDecimal x = false) :
    (digits.toParser env).Reads ds r (ds.map Number.digitValue) := by
  cases ds with
  | nil => exact absurd rfl hne
  | cons x ds =>
    obtain ⟨hx, hds⟩ := List.forall_mem_cons.1 hds
    refine Parser.reads_many1 (t := [x]) ⟨hx, rfl⟩ (sequence_singletons hds) ?_ ?_ ?_
    · rintro y _ ⟨-, rfl⟩
      exact List.cons_ne_nil _ _
    · rintro y _ u ⟨hy, rfl⟩
      exact ((Parser.reads_satisfy _ hy u).label _).map _
    · exact ((Parser.rejects_satisfy hr).label _).map _

/-- Without a digit a digit is expected. -/
theorem misses_digits (hr : ∀ x ∈ r.head?, isDecimal x = false) :
    (digits.toParser env).Misses [] r "digit" :=
  (((Parser.misses_satisfy hr).label _).map _).many1

/-! ## The grammar of integers -/

variable {text : List Char} {ns : List Nat} {w : Int64}

/-- What is done with the digits behind a sign. -/
def wordOf (negative : Bool) (ns : List Nat) : Grammar Char ρ Int64 :=
  match Number.ofDigits? negative ns with
  | some n => retn n
  | none => fail.label integerRangeLabel

/-- The part of an integer behind its sign. -/
def number (negative : Bool) : Grammar Char ρ Int64 := digits.bind (wordOf negative)

/-- An integer is a number behind a sign. -/
theorem integer_eq :
    (integer : Grammar Char ρ Int64) = (sign.bind number).label integerLabel :=
  rfl

/-- A number that is in range is read with its value. -/
theorem reads_number (h : (digits.toParser env).Reads ds r ns)
    (hw : Number.ofDigits? negative ns = some w) :
    ((number negative).toParser env).Reads ds r w := by
  have hword : ((wordOf negative ns).toParser env).Reads [] r w := by
    rw [wordOf, hw]
    exact Parser.reads_retn w r
  have hboth := h.bind (k := fun ns => (wordOf negative ns).toParser env) hword
  rw [List.append_nil] at hboth
  exact hboth

/-- The digits are read before they are rejected. -/
theorem misses_number_range (h : (digits.toParser env).Reads ds r ns)
    (hnone : Number.ofDigits? negative ns = none) :
    ((number negative).toParser env).Misses ds r integerRangeLabel := by
  have hword : ((wordOf negative ns).toParser env).Misses [] r integerRangeLabel := by
    rw [wordOf, hnone]
    exact Parser.misses_label_fail integerRangeLabel r
  have hboth := h.bind_misses (k := fun ns => (wordOf negative ns).toParser env) hword
  rw [List.append_nil] at hboth
  exact hboth

theorem misses_number (hr : ∀ x ∈ r.head?, isDecimal x = false) :
    ((number negative).toParser env).Misses [] r "digit" :=
  (misses_digits env hr).bind

/-- The sign of a text is read whether it is there or not. -/
theorem reads_leadingSign (text : List Char) :
    (sign.toParser env).Reads (leadingSign text) (leadingDigits text ++ undigited text)
      (leadingSign text == ['-']) := by
  rw [leadingDigits_append_undigited]
  exact reads_sign env text

/-- The digits at the front of a text are read, as many as there are. -/
theorem reads_takeWhile (hne : text.takeWhile isDecimal ≠ []) :
    (digits.toParser env).Reads (text.takeWhile isDecimal) (text.dropWhile isDecimal)
      ((text.takeWhile isDecimal).map Number.digitValue) :=
  reads_digits env hne (fun _ => List.mem_takeWhile_imp) (not_isDecimal_dropWhile text)

theorem reads_leadingDigits (hne : leadingDigits text ≠ []) :
    (digits.toParser env).Reads (leadingDigits text) (undigited text)
      ((leadingDigits text).map Number.digitValue) :=
  reads_takeWhile env hne

/-- The integer is read if there are digits and it has a word. -/
theorem reads_integer (hne : leadingDigits text ≠ []) (hw : w.toInt = leadingInteger text) :
    (integer.toParser env).Reads (leadingSign text ++ leadingDigits text) (undigited text) w := by
  have hnumber := reads_number env (reads_leadingDigits env hne)
    (Number.ofDigits?_eq_some_iff.2 hw)
  rw [integer_eq]
  exact ((reads_leadingSign env text).bind hnumber).label integerLabel

/-- Behind digits that spell an integer without a word the literal is rejected. -/
theorem misses_integer_range (hne : leadingDigits text ≠ [])
    (hw : ∀ w : Int64, w.toInt ≠ leadingInteger text) :
    (integer.toParser env).Misses (leadingSign text ++ leadingDigits text) (undigited text)
      integerRangeLabel := by
  have hnone : Number.ofDigits? (leadingSign text == ['-'])
      ((leadingDigits text).map Number.digitValue) = none :=
    Option.eq_none_iff_forall_ne_some.2 fun w h => hw w (Number.ofDigits?_eq_some_iff.1 h)
  have hnumber := misses_number_range env (reads_leadingDigits env hne) hnone
  rw [integer_eq]
  exact ((reads_leadingSign env text).bind_misses hnumber).label_of_ne_nil integerLabel
    (List.append_ne_nil_of_right_ne_nil _ hne)

/-- The sign is read though no digits are behind it, so a digit is missing there. -/
theorem misses_integer_digit (hnil : leadingDigits text = []) (hs : leadingSign text ≠ []) :
    (integer.toParser env).Misses (leadingSign text) (undigited text) "digit" := by
  have hsign := reads_leadingSign env text
  rw [hnil] at hsign
  have hboth := hsign.bind_misses (k := fun negative => (number negative).toParser env)
    (misses_number env (not_isDecimal_undigited text))
  rw [List.append_nil] at hboth
  rw [integer_eq]
  exact hboth.label_of_ne_nil integerLabel hs

/-- Where there is neither a sign nor a digit an integer is missing. -/
theorem misses_integer (hnil : leadingDigits text = []) (hs : leadingSign text = []) :
    (integer.toParser env).Misses [] (undigited text) integerLabel := by
  have hsign := reads_leadingSign env text
  rw [hnil, hs] at hsign
  have hboth := hsign.bind_misses (k := fun negative => (number negative).toParser env)
    (misses_number env (not_isDecimal_undigited text))
  rw [integer_eq]
  exact hboth.label integerLabel

/-- What the grammar of integers does is told by the literal at the front of the text: its sign and
its digits, the integer they spell, and the cursor behind them. Digits that spell an integer in
range are read; if it is out of range, the failure is behind the digits. Without digits the failure
is behind the sign and expects a digit, or it is where the run began and expects an integer. Digits
are taken into a word exactly if the integer they spell is that of a word. -/
theorem integer_exact (c : Cursor Char) :
    (∃ d : Cursor Char, d.source = c.source ∧
      d.position = c.position + (leadingSign c.remaining).length +
        (leadingDigits c.remaining).length ∧
      (leadingDigits c.remaining ≠ [] → -2 ^ 63 ≤ leadingInteger c.remaining →
        leadingInteger c.remaining ≤ 2 ^ 63 - 1 → ∃ w : Int64,
          w.toInt = leadingInteger c.remaining ∧ (integer.toParser env).Gives c true (.ok w d)) ∧
      (leadingDigits c.remaining ≠ [] →
        leadingInteger c.remaining < -2 ^ 63 ∨ 2 ^ 63 - 1 < leadingInteger c.remaining →
          (integer.toParser env).Gives c true (.error (.expecting d integerRangeLabel))) ∧
      (leadingDigits c.remaining = [] → leadingSign c.remaining ≠ [] →
        (integer.toParser env).Gives c true (.error (.expecting d "digit"))) ∧
      (leadingDigits c.remaining = [] → leadingSign c.remaining = [] →
        (integer.toParser env).Gives c false (.error (.expecting d integerLabel)))) ∧
    ∀ negative digits w,
      Number.ofDigits? negative digits = some w ↔ w.toInt = Number.spelled negative digits := by
  refine ⟨?_, fun negative digits w => Number.ofDigits?_eq_some_iff⟩
  have htext : c.remaining =
      leadingSign c.remaining ++ leadingDigits c.remaining ++ undigited c.remaining := by
    rw [List.append_assoc, leadingDigits_append_undigited, leadingSign_append_unsigned]
  -- `d` is behind the sign and the digits, be they there or not
  obtain ⟨d, hsource, hposition, hrest⟩ := Cursor.exists_behind htext
  rw [List.length_append, ← Nat.add_assoc] at hposition
  refine ⟨d, hsource, hposition, fun hne hmin hmax => ?_, fun hne hout => ?_, fun hnil hs => ?_,
    fun hnil hs => ?_⟩
  · obtain ⟨w, hw⟩ := Number.exists_word_iff.2 ⟨hmin, hmax⟩
    have hread := List.append_ne_nil_of_right_ne_nil (leadingSign c.remaining) hne
    exact ⟨w, hw, (reads_integer env hne hw).gives_consumed hread htext hsource hrest⟩
  · have hw : ∀ w : Int64, w.toInt ≠ leadingInteger c.remaining := by
      intro w hw
      have hfits := Number.exists_word_iff.1 ⟨w, hw⟩
      omega
    have hread := List.append_ne_nil_of_right_ne_nil (leadingSign c.remaining) hne
    exact (misses_integer_range env hne hw).gives_consumed hread htext hsource hrest
  · rw [hnil, List.append_nil] at htext
    exact (misses_integer_digit env hnil hs).gives_consumed hs htext hsource hrest
  · rw [hnil, hs] at htext
    exact (misses_integer env hnil hs).gives htext hsource hrest

/-- The grammar of integers by itself. -/
def integerAlone : Parser Char Int64 :=
  (integer : Grammar Char (fun _ => Empty) Int64).toParser fun r => r.elim

/-- The ends of the range differ: the least word is read, and its opposite is rejected. -/
theorem integer_exact_at_ends :
    (∃ d w, integerAlone.Gives (.start 0 "-9223372036854775808x".toList.toArray) true (.ok w d) ∧
      d.position = 20 ∧ w = Int64.minValue) ∧
    (∃ d, integerAlone.Gives (.start 0 "9223372036854775808".toList.toArray) true
      (.error (.expecting d integerRangeLabel)) ∧ d.position = 19) ∧
    (∃ d, integerAlone.Gives (.start 0 #['-', 'x']) true (.error (.expecting d "digit")) ∧
      d.position = 1) ∧
    ∃ d, integerAlone.Gives (.start 0 #['x']) false (.error (.expecting d integerLabel)) ∧
      d.position = 0 := by
  refine ⟨?_, ?_, ?_, ?_⟩
  · obtain ⟨⟨d, -, hposition, hread, -⟩, -⟩ := integer_exact (fun r : Empty => r.elim)
      (.start 0 "-9223372036854775808x".toList.toArray)
    obtain ⟨w, hw, hgives⟩ := hread (by decide) (by decide) (by decide)
    have hvalue : w.toInt = Int64.minValue.toInt := hw.trans (by decide)
    exact ⟨d, w, hgives, hposition, Int64.toInt_inj.1 hvalue⟩
  · obtain ⟨⟨d, -, hposition, -, hrejected, -⟩, -⟩ := integer_exact (fun r : Empty => r.elim)
      (.start 0 "9223372036854775808".toList.toArray)
    exact ⟨d, hrejected (by decide) (.inr (by decide)), hposition⟩
  · obtain ⟨⟨d, -, hposition, -, -, hdigit, -⟩, -⟩ := integer_exact (fun r : Empty => r.elim)
      (.start 0 #['-', 'x'])
    exact ⟨d, hdigit (by decide) (by decide), hposition⟩
  · obtain ⟨⟨d, -, hposition, -, -, -, hinteger⟩, -⟩ := integer_exact (fun r : Empty => r.elim)
      (.start 0 #['x'])
    exact ⟨d, hinteger (by decide) (by decide), hposition⟩

end Grammar

end ParserKit
