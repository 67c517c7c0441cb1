import Mathlib.Computability.Language
import ParserKit.Number.Decimal
import ParserKit.Proofs.Grammar.Literal
import ParserKit.Proofs.Number.Integer

/-!
# Decimal numbers are read as far as they go

What a decimal number is made of is told by the text: a sign and digits, a point with the digits
behind it, and a mark with an exponent. Each part is as long as it can be, and the two optional
parts are there as soon as their first character is. So a point or a mark commits the reader to
the digits behind it: where they are missing it fails, though the text in front would be a number.

If no part breaks off, what is read is the longest number that the text begins with. Numbers are
said apart from the grammar, as a language of texts.

## Main definitions

* `Grammar.leadingFraction`, `Grammar.leadingExponent`: optional parts at the front of a text
* `Grammar.leadingDecimal`: the number that a text begins with
* `Grammar.decimals`: the language of decimal numbers

## Main results

* `Grammar.prefix_leadingDecimal`: a number that the text begins with is a beginning of that one
* `Grammar.decimal_exact`: what the grammar of decimal numbers does, on every input
-/

namespace ParserKit.Grammar

open Computability

variable {ρ : Type → Type} (env : {α : Type} → ρ α → Parser Char α) {text t r : List Char}

/-! ## The parts of a text -/

/-- The sign and the digits that a text begins with. -/
def leadingNumeral (text : List Char) : List Char := leadingSign text ++ leadingDigits text

/-- The point that a text begins with, and the digits behind it, as many as there are. -/
def leadingFraction : List Char → List Char
  | [] => []
  | x :: r => if x = '.' then '.' :: r.takeWhile isDecimal else []

/-- What is behind that point and the digits. -/
def unpointed : List Char → List Char
  | [] => []
  | x :: r => if x = '.' then r.dropWhile isDecimal else x :: r

/-- Whether a character stands before an exponent. -/
def isMark (x : Char) : Bool := "eE".toList.contains x

/-- The mark that a text begins with, and the sign and the digits behind it. -/
def leadingExponent : List Char → List Char
  | [] => []
  | x :: r => if isMark x then x :: leadingNumeral r else []

/-- What is behind that mark, the sign and the digits. -/
def unmarked : List Char → List Char
  | [] => []
  | x :: r => if isMark x then undigited r else x :: r

/-- The exponent that a text begins with, and zero if there is none. -/
def exponentValue : List Char → Int
  | [] => 0
  | x :: r =>
    if isMark x then
      Number.exponentOf (leadingSign r == ['-']) ((leadingDigits r).map Number.digitValue)
    else 0

/-- The text begins with a point, and there is no digit behind it. -/
def PointAlone (text : List Char) : Prop := ∃ r, text = '.' :: r ∧ r.takeWhile isDecimal = []

/-- The text begins with a mark, and there is no digit behind it and its sign. -/
def MarkAlone (text : List Char) : Prop :=
  ∃ x r, text = x :: r ∧ isMark x = true ∧ leadingDigits r = []

theorem pointAlone_cons_iff {x : Char} :
    PointAlone (x :: r) ↔ x = '.' ∧ r.takeWhile isDecimal = [] := by
  constructor
  · rintro ⟨_, heq, hnil⟩
    cases heq
    exact ⟨rfl, hnil⟩
  · rintro ⟨rfl, hnil⟩
    exact ⟨r, rfl, hnil⟩

theorem markAlone_cons_iff {x : Char} :
    MarkAlone (x :: r) ↔ isMark x = true ∧ leadingDigits r = [] := by
  constructor
  · rintro ⟨_, _, heq, hx, hnil⟩
    cases heq
    exact ⟨hx, hnil⟩
  · rintro ⟨hx, hnil⟩
    exact ⟨x, r, rfl, hx, hnil⟩

instance : DecidablePred PointAlone
  | [] => .isFalse nofun
  | _ :: _ => decidable_of_iff _ pointAlone_cons_iff.symm

instance : DecidablePred MarkAlone
  | [] => .isFalse nofun
  | _ :: _ => decidable_of_iff _ markAlone_cons_iff.symm

/-- The number that a text begins with. -/
def leadingDecimal (text : List Char) : List Char :=
  leadingNumeral text ++
    (leadingFraction (undigited text) ++ leadingExponent (unpointed (undigited text)))

/-- The parts at the front of a text are followed by what they leave. -/
theorem leadingNumeral_append_undigited (text : List Char) :
    leadingNumeral text ++ undigited text = text := by
  rw [leadingNumeral, List.append_assoc, leadingDigits_append_undigited,
    leadingSign_append_unsigned]

/-- A text begins with a point, or it has no fraction. -/
theorem leadingFraction_cases (text : List Char) :
    (∃ r, text = '.' :: r ∧ leadingFraction text = '.' :: r.takeWhile isDecimal ∧
      unpointed text = r.dropWhile isDecimal) ∨
    ((∀ x ∈ text.head?, (x == '.') = false) ∧ leadingFraction text = [] ∧
      unpointed text = text) := by
  cases text with
  | nil => exact .inr ⟨nofun, rfl, rfl⟩
  | cons x r =>
    by_cases hx : x = '.'
    · subst hx
      exact .inl ⟨r, rfl, rfl, rfl⟩
    · refine .inr ⟨?_, if_neg hx, if_neg hx⟩
      rintro _ ⟨⟩
      exact beq_false_of_ne hx

/-- A text begins with a mark, or it has no exponent. -/
theorem leadingExponent_cases (text : List Char) :
    (∃ x r, text = x :: r ∧ isMark x = true ∧ leadingExponent text = x :: leadingNumeral r ∧
      unmarked text = undigited r) ∨
    ((∀ x ∈ text.head?, isMark x = false) ∧ leadingExponent text = [] ∧ unmarked text = text) := by
  cases text with
  | nil => exact .inr ⟨nofun, rfl, rfl⟩
  | cons x r =>
    by_cases hx : isMark x = true
    · exact .inl ⟨x, r, rfl, hx, if_pos hx, if_pos hx⟩
    · refine .inr ⟨?_, if_neg hx, if_neg hx⟩
      rintro _ ⟨⟩
      exact Bool.eq_false_iff.2 hx

theorem leadingFraction_append_unpointed (text : List Char) :
    leadingFraction text ++ unpointed text = text := by
  obtain ⟨r, rfl, hf, hu⟩ | ⟨-, hf, hu⟩ := leadingFraction_cases text
  · rw [hf, hu, List.cons_append, List.takeWhile_append_dropWhile]
  · rw [hf, hu, List.nil_append]

theorem leadingExponent_append_unmarked (text : List Char) :
    leadingExponent text ++ unmarked text = text := by
  obtain ⟨x, r, rfl, -, he, hu⟩ | ⟨-, he, hu⟩ := leadingExponent_cases text
  · rw [he, hu, List.cons_append, leadingNumeral_append_undigited]
  · rw [he, hu, List.nil_append]

/-- The digits and the fraction at the front of a text are followed by what they leave. -/
theorem wholeAndFraction_append_unpointed (text : List Char) :
    leadingNumeral text ++ leadingFraction (undigited text) ++ unpointed (undigited text) =
      text := by
  rw [List.append_assoc, leadingFraction_append_unpointed, leadingNumeral_append_undigited]

theorem leadingDecimal_append_unmarked (text : List Char) :
    leadingDecimal text ++ unmarked (unpointed (undigited text)) = text := by
  rw [leadingDecimal, ← List.append_assoc, List.append_assoc, leadingExponent_append_unmarked,
    wholeAndFraction_append_unpointed]

/-- A sign is one character. -/
theorem length_leadingSign (h : leadingSign text ≠ []) : (leadingSign text).length = 1 := by
  unfold leadingSign at h ⊢
  split at h
  · rfl
  · rfl
  · exact absurd rfl h

/-- A point alone is a fraction without digits, which is not one that is read. -/
theorem leadingFraction_of_pointAlone (h : PointAlone text) : leadingFraction text = ['.'] := by
  obtain ⟨r, rfl, hnil⟩ := h
  exact congrArg _ hnil

/-- An exponent without digits is a mark and perhaps a sign. -/
theorem leadingExponent_of_nil {x : Char} (hx : isMark x = true) (hnil : leadingDigits r = []) :
    leadingExponent (x :: r) = x :: leadingSign r := by
  rw [leadingExponent, if_pos hx, leadingNumeral, hnil, List.append_nil]

/-! ## How the parts are read -/

/-- Where there are digits they are read, with a sign before them or without. -/
theorem reads_numeral (hne : leadingDigits text ≠ []) :
    ((sign.both digits).toParser env).Reads (leadingNumeral text) (undigited text)
      (leadingSign text == ['-'], (leadingDigits text).map Number.digitValue) :=
  (reads_leadingSign env text).both (reads_leadingDigits env hne)

/-- A sign is read though no digits are behind it. -/
theorem misses_numeral (hnil : leadingDigits text = []) :
    ((sign.both digits).toParser env).Misses (leadingNumeral text) (undigited text) "digit" := by
  have hsign := reads_leadingSign env text
  rw [leadingNumeral]
  rw [hnil] at hsign ⊢
  exact hsign.both_misses (misses_digits env (not_isDecimal_undigited text))

theorem reads_mark {x : Char} (hx : isMark x = true) (r : List Char) :
    ((oneOf "eE").toParser env).Reads [x] r x :=
  (Parser.reads_satisfy _ hx r).label _

/-- A fraction is read if there is one, and else nothing is; only a point alone is neither. -/
theorem reads_fraction (h : ¬ PointAlone text) :
    (fraction.toParser env).Reads (leadingFraction text) (unpointed text)
      ((leadingFraction text).tail.map Number.digitValue) := by
  obtain ⟨r, rfl, hf, hu⟩ | ⟨hhead, hf, hu⟩ := leadingFraction_cases text
  · have hne : r.takeWhile isDecimal ≠ [] := fun hnil => h ⟨r, rfl, hnil⟩
    rw [hf, hu]
    exact ((reads_chr env '.' _).seqRight (reads_takeWhile env hne)).optional.map _
  · have hnone : (((chr '.').seqRight digits).toParser env).Rejects text :=
      ((Parser.rejects_satisfy hhead).label _).bind
    rw [hf, hu]
    exact hnone.optional.map _

/-- The point is read though no digits are behind it. -/
theorem misses_fraction (h : PointAlone text) :
    (fraction.toParser env).Misses (leadingFraction text) (unpointed text) "digit" := by
  rw [leadingFraction_of_pointAlone h]
  obtain ⟨r, rfl, -⟩ := h
  have hdigits := misses_digits env (not_isDecimal_dropWhile r)
  exact (((reads_chr env '.' _).seqRight_misses hdigits).optional_of_ne_nil (by simp)).map _

/-- An exponent is read if there is one, and else nothing is; only a mark alone is neither. -/
theorem reads_exponent (h : ¬ MarkAlone text) :
    (exponent.toParser env).Reads (leadingExponent text) (unmarked text) (exponentValue text) := by
  obtain ⟨x, r, rfl, hx, he, hu⟩ | ⟨hhead, he, hu⟩ := leadingExponent_cases text
  · have hne : leadingDigits r ≠ [] := fun hnil => h ⟨x, r, rfl, hx, hnil⟩
    rw [he, hu, exponentValue, if_pos hx]
    exact (((reads_mark env hx _).seqRight (reads_numeral env hne)).map _).optional.map _
  · have hnone : (((oneOf "eE").seqRight (sign.both digits)).toParser env).Rejects text :=
      ((Parser.rejects_satisfy hhead).label _).bind
    have hvalue : exponentValue text = 0 := by
      cases text with
      | nil => rfl
      | cons x r => exact if_neg (Bool.eq_false_iff.1 (hhead x rfl))
    rw [he, hu, hvalue]
    exact (hnone.map _).optional.map _

/-- The mark and the sign are read though no digits are behind them. -/
theorem misses_exponent (h : MarkAlone text) :
    (exponent.toParser env).Misses (leadingExponent text) (unmarked text) "digit" := by
  obtain ⟨x, r, rfl, hx, hnil⟩ := h
  have hnumeral := misses_numeral env hnil
  rw [leadingExponent, unmarked, if_pos hx, if_pos hx]
  exact ((((reads_mark env hx _).seqRight_misses hnumeral).map _).optional_of_ne_nil
    (by simp)).map _

/-! ## The grammar of decimal numbers -/

/-- The double that is made of the number at the front of a text. -/
def leadingDouble (text : List Char) : Float :=
  Number.assemble (leadingSign text == ['-']) ((leadingDigits text).map Number.digitValue)
    ((leadingFraction (undigited text)).tail.map Number.digitValue)
    (exponentValue (unpointed (undigited text)))

theorem leadingNumeral_ne_nil (h : leadingDigits text ≠ []) : leadingNumeral text ≠ [] :=
  List.append_ne_nil_of_right_ne_nil _ h

theorem wholeAndFraction_ne_nil (h : leadingDigits text ≠ []) :
    leadingNumeral text ++ leadingFraction (undigited text) ≠ [] :=
  List.append_ne_nil_of_left_ne_nil (leadingNumeral_ne_nil h) _

/-- Where a number is read something is read. -/
theorem leadingDecimal_ne_nil (h : leadingDigits text ≠ []) : leadingDecimal text ≠ [] :=
  List.append_ne_nil_of_left_ne_nil (leadingNumeral_ne_nil h) _

/-- The digits in front and the fraction, read one after the other. -/
theorem reads_wholeAndFraction (hne : leadingDigits text ≠ [])
    (hpoint : ¬ PointAlone (undigited text)) :
    (((sign.both digits).both fraction).toParser env).Reads
      (leadingNumeral text ++ leadingFraction (undigited text)) (unpointed (undigited text))
      ((leadingSign text == ['-'], (leadingDigits text).map Number.digitValue),
        (leadingFraction (undigited text)).tail.map Number.digitValue) := by
  have hnumeral := reads_numeral env hne
  rw [← leadingFraction_append_unpointed (undigited text)] at hnumeral
  exact hnumeral.both (reads_fraction env hpoint)

/-- Where nothing is cut short, all parts of a number are read. -/
theorem reads_decimal (hne : leadingDigits text ≠ []) (hpoint : ¬ PointAlone (undigited text))
    (hmark : ¬ MarkAlone (unpointed (undigited text))) :
    (decimal.toParser env).Reads (leadingDecimal text) (unmarked (unpointed (undigited text)))
      (leadingDouble text) := by
  have hfront := reads_wholeAndFraction env hne hpoint
  rw [← leadingExponent_append_unmarked (unpointed (undigited text))] at hfront
  have hall := hfront.both (reads_exponent env hmark)
  rw [List.append_assoc] at hall
  exact (hall.map _).label numberLabel

/-- A mark without digits is a failure behind it, and the number in front does not count. -/
theorem misses_decimal_exponent (hne : leadingDigits text ≠ [])
    (hpoint : ¬ PointAlone (undigited text)) (hmark : MarkAlone (unpointed (undigited text))) :
    (decimal.toParser env).Misses (leadingDecimal text) (unmarked (unpointed (undigited text)))
      "digit" := by
  have hfront := reads_wholeAndFraction env hne hpoint
  rw [← leadingExponent_append_unmarked (unpointed (undigited text))] at hfront
  have hall := hfront.both_misses (misses_exponent env hmark)
  rw [List.append_assoc] at hall
  exact (hall.map _).label_of_ne_nil numberLabel (leadingDecimal_ne_nil hne)

/-- So is a point without digits. -/
theorem misses_decimal_fraction (hne : leadingDigits text ≠ [])
    (hpoint : PointAlone (undigited text)) :
    (decimal.toParser env).Misses (leadingNumeral text ++ leadingFraction (undigited text))
      (unpointed (undigited text)) "digit" := by
  have hnumeral := reads_numeral env hne
  rw [← leadingFraction_append_unpointed (undigited text)] at hnumeral
  have hall := (hnumeral.both_misses (misses_fraction env hpoint)).both
    (q := exponent.toParser env)
  exact (hall.map _).label_of_ne_nil numberLabel (wholeAndFraction_ne_nil hne)

/-- Without digits in front there is a failure behind the sign. -/
theorem misses_decimal_digit (hnil : leadingDigits text = []) (hs : leadingSign text ≠ []) :
    (decimal.toParser env).Misses (leadingNumeral text) (undigited text) "digit" := by
  have hall := ((misses_numeral env hnil).both (q := fraction.toParser env)).both
    (q := exponent.toParser env)
  exact (hall.map _).label_of_ne_nil numberLabel (List.append_ne_nil_of_left_ne_nil hs _)

/-- Where there is neither a sign nor a digit a number is missing. -/
theorem misses_decimal (hnil : leadingDigits text = []) (hs : leadingSign text = []) :
    (decimal.toParser env).Misses [] (undigited text) numberLabel := by
  have hnumeral := misses_numeral env hnil
  rw [leadingNumeral, hs, hnil, List.append_nil] at hnumeral
  have hall := (hnumeral.both (q := fraction.toParser env)).both (q := exponent.toParser env)
  exact (hall.map _).label numberLabel

/-- Where a decimal number is read no part of it breaks off, and the double is made of the parts. -/
theorem decimal_parts_of_gives {c d : Cursor Char} {consumed : Bool} {x : Float}
    (h : (decimal.toParser env).Gives c consumed (.ok x d)) :
    leadingDigits c.remaining ≠ [] ∧ ¬ PointAlone (undigited c.remaining) ∧
      ¬ MarkAlone (unpointed (undigited c.remaining)) ∧ x = leadingDouble c.remaining := by
  have hnumeral := (leadingNumeral_append_undigited c.remaining).symm
  have hdecimal := (leadingDecimal_append_unmarked c.remaining).symm
  have hne : leadingDigits c.remaining ≠ [] := by
    intro hnil
    by_cases hs : leadingSign c.remaining = []
    · rw [leadingNumeral, hs, hnil] at hnumeral
      exact (misses_decimal env hnil hs).not_gives_ok hnumeral h
    · exact (misses_decimal_digit env hnil hs).not_gives_ok hnumeral h
  have hpoint : ¬ PointAlone (undigited c.remaining) := fun hpoint =>
    (misses_decimal_fraction env hne hpoint).not_gives_ok
      (wholeAndFraction_append_unpointed c.remaining).symm h
  have hmark : ¬ MarkAlone (unpointed (undigited c.remaining)) := fun hmark =>
    (misses_decimal_exponent env hne hpoint hmark).not_gives_ok hdecimal h
  obtain ⟨e, -, -, hread⟩ := reads_decimal env hne hpoint hmark c hdecimal
  obtain ⟨-, heq⟩ := h.unique hread
  cases heq
  exact ⟨hne, hpoint, hmark, rfl⟩

/-! ## The language of decimal numbers -/

/-- Texts of one character that is accepted. -/
def single (accepts : Char → Bool) : Language Char := {t | ∃ x, accepts x = true ∧ t = [x]}

/-- Rows of digits, `[0-9]+`. -/
def rows : Language Char := single isDecimal * (single isDecimal)∗

/-- Rows of digits with a sign or without, `[+-]?[0-9]+`. -/
def numerals : Language Char := (1 + single "+-".toList.contains) * rows

/-- Points with digits behind them, and the empty text, `(\.[0-9]+)?`. -/
def fractions : Language Char := 1 + single (· == '.') * rows

/-- Marks with an exponent, and the empty text, `([eE][+-]?[0-9]+)?`. -/
def exponents : Language Char := 1 + single isMark * numerals

/-- Decimal numbers, `[+-]?[0-9]+(\.[0-9]+)?([eE][+-]?[0-9]+)?`. -/
def decimals : Language Char := numerals * (fractions * exponents)

/-- A word that begins with one of these characters. -/
theorem mem_single_mul_iff {accepts : Char → Bool} {l : Language Char} :
    t ∈ single accepts * l ↔ ∃ x u, accepts x = true ∧ u ∈ l ∧ t = x :: u := by
  rw [Language.mem_mul]
  constructor
  · rintro ⟨_, ⟨x, hx, rfl⟩, u, hu, rfl⟩
    exact ⟨x, u, hx, hu, rfl⟩
  · rintro ⟨x, u, hx, hu, rfl⟩
    exact ⟨[x], ⟨x, hx, rfl⟩, u, hu, rfl⟩

/-- A word of these characters only, however long. -/
theorem mem_kstar_single_iff {accepts : Char → Bool} :
    t ∈ (single accepts)∗ ↔ ∀ x ∈ t, accepts x = true := by
  rw [Language.mem_kstar]
  constructor
  · rintro ⟨L, rfl, hL⟩ x hx
    obtain ⟨y, hy, hxy⟩ := List.mem_flatten.1 hx
    obtain ⟨z, hz, rfl⟩ := hL y hy
    rw [List.mem_singleton.1 hxy]
    exact hz
  · intro h
    refine ⟨t.map fun x => [x], by simp [← List.flatMap_def], fun y hy => ?_⟩
    obtain ⟨x, hx, rfl⟩ := List.mem_map.1 hy
    exact ⟨x, h x hx, rfl⟩

theorem mem_rows_iff : t ∈ rows ↔ t ≠ [] ∧ ∀ x ∈ t, isDecimal x = true := by
  rw [rows, mem_single_mul_iff]
  constructor
  · rintro ⟨x, u, hx, hu, rfl⟩
    exact ⟨List.cons_ne_nil _ _, List.forall_mem_cons.2 ⟨hx, mem_kstar_single_iff.1 hu⟩⟩
  · rintro ⟨hne, ht⟩
    obtain ⟨x, u, rfl⟩ := List.exists_cons_of_ne_nil hne
    obtain ⟨hx, hu⟩ := List.forall_mem_cons.1 ht
    exact ⟨x, u, hx, mem_kstar_single_iff.2 hu, rfl⟩

/-- What is read of a sign is a sign or nothing. -/
theorem leadingSign_mem (text : List Char) :
    leadingSign text ∈ 1 + single "+-".toList.contains := by
  unfold leadingSign
  split
  · exact .inr ⟨'+', rfl, rfl⟩
  · exact .inr ⟨'-', rfl, rfl⟩
  · exact .inl rfl

theorem takeWhile_mem_rows (h : text.takeWhile isDecimal ≠ []) :
    text.takeWhile isDecimal ∈ rows :=
  mem_rows_iff.2 ⟨h, fun _ => List.mem_takeWhile_imp⟩

/-- The parts that are read at the front of a text are words of their languages. -/
theorem leadingNumeral_mem (h : leadingDigits text ≠ []) : leadingNumeral text ∈ numerals :=
  Language.append_mem_mul (leadingSign_mem text) (takeWhile_mem_rows h)

theorem leadingFraction_mem (h : ¬ PointAlone text) : leadingFraction text ∈ fractions := by
  obtain ⟨r, rfl, hf, -⟩ | ⟨-, hf, -⟩ := leadingFraction_cases text
  · have hne : r.takeWhile isDecimal ≠ [] := fun hnil => h ⟨r, rfl, hnil⟩
    exact .inr (mem_single_mul_iff.2 ⟨'.', _, rfl, takeWhile_mem_rows hne, hf⟩)
  · exact .inl hf

theorem leadingExponent_mem (h : ¬ MarkAlone text) : leadingExponent text ∈ exponents := by
  obtain ⟨x, r, rfl, hx, he, -⟩ | ⟨-, he, -⟩ := leadingExponent_cases text
  · have hne : leadingDigits r ≠ [] := fun hnil => h ⟨x, r, rfl, hx, hnil⟩
    exact .inr (mem_single_mul_iff.2 ⟨x, _, hx, leadingNumeral_mem hne, he⟩)
  · exact .inl he

/-- Where no part breaks off, what a text begins with is a number. -/
theorem leadingDecimal_mem (hne : leadingDigits text ≠ [])
    (hpoint : ¬ PointAlone (undigited text)) (hmark : ¬ MarkAlone (unpointed (undigited text))) :
    leadingDecimal text ∈ decimals :=
  Language.append_mem_mul (leadingNumeral_mem hne)
    (Language.append_mem_mul (leadingFraction_mem hpoint) (leadingExponent_mem hmark))

/-! ## The longest number -/

/-- Digits are not cut off by what is behind them. -/
theorem takeWhile_rows_append (h : t ∈ rows) (u : List Char) :
    (t ++ u).takeWhile isDecimal = t ++ u.takeWhile isDecimal ∧
      (t ++ u).dropWhile isDecimal = u.dropWhile isDecimal :=
  ⟨List.takeWhile_append_of_pos (mem_rows_iff.1 h).2,
    List.dropWhile_append_of_pos (mem_rows_iff.1 h).2⟩

/-- A numeral at the front of a text has its own sign, whatever follows it. -/
theorem leadingSign_append {s : List Char} (hs : s ∈ 1 + single "+-".toList.contains)
    (ht : t ∈ rows) (u : List Char) : leadingSign (s ++ (t ++ u)) = s := by
  obtain rfl | ⟨x, hx, rfl⟩ := hs
  · obtain ⟨hne, hdigits⟩ := mem_rows_iff.1 ht
    obtain ⟨x, r, rfl⟩ := List.exists_cons_of_ne_nil hne
    exact leadingSign_of_isDecimal (hdigits x List.mem_cons_self) _
  · have hsigns : "+-".toList = ['+', '-'] := rfl
    rw [hsigns, List.contains_iff_mem] at hx
    simp only [List.mem_cons, List.not_mem_nil, or_false] at hx
    obtain rfl | rfl := hx <;> rfl

/-- A numeral at the front of a text is the beginning of the one that is read, which goes on as long
as digits follow. -/
theorem leadingNumeral_append (h : t ∈ numerals) (u : List Char) :
    leadingNumeral (t ++ u) = t ++ u.takeWhile isDecimal ∧
      undigited (t ++ u) = u.dropWhile isDecimal := by
  obtain ⟨s, hs, r, hr, rfl⟩ := Language.mem_mul.1 h
  have hsign := leadingSign_append hs hr u
  have hunsigned : unsigned (s ++ (r ++ u)) = r ++ u := by rw [unsigned, hsign, List.drop_left]
  obtain ⟨htake, hdrop⟩ := takeWhile_rows_append hr u
  rw [List.append_assoc, leadingNumeral, leadingDigits, undigited, hsign, hunsigned, htake, hdrop,
    List.append_assoc]
  exact ⟨rfl, rfl⟩

/-- Before anything but a digit a row of digits is at its end. -/
theorem takeWhile_of_head (h : ∀ x ∈ r.head?, isDecimal x = false) :
    r.takeWhile isDecimal = [] ∧ r.dropWhile isDecimal = r := by
  cases r with
  | nil => exact ⟨rfl, rfl⟩
  | cons x r => simp [h x rfl]

/-- Points and marks are no digits, so they end a row of digits. -/
theorem not_isDecimal_of_point {x : Char} (h : (x == '.') = true) : isDecimal x = false := by
  rw [eq_of_beq h]
  rfl

theorem not_isDecimal_of_mark {x : Char} (h : isMark x = true) : isDecimal x = false := by
  have hmarks : "eE".toList = ['e', 'E'] := rfl
  rw [isMark, hmarks, List.contains_iff_mem] at h
  simp only [List.mem_cons, List.not_mem_nil, or_false] at h
  obtain rfl | rfl := h <;> rfl

/-- A fraction at the front of a text goes on as long as digits follow. -/
theorem leadingFraction_append (h : t ∈ rows) (u : List Char) :
    leadingFraction ('.' :: t ++ u) = '.' :: t ++ u.takeWhile isDecimal ∧
      unpointed ('.' :: t ++ u) = u.dropWhile isDecimal := by
  obtain ⟨htake, hdrop⟩ := takeWhile_rows_append h u
  exact ⟨congrArg _ htake, hdrop⟩

/-- What is behind a numeral is not read with it, if it does not begin with a digit. -/
theorem leadingDecimal_append (h : t ∈ numerals) (hr : ∀ x ∈ r.head?, isDecimal x = false) :
    leadingDecimal (t ++ r) = t ++ (leadingFraction r ++ leadingExponent (unpointed r)) := by
  obtain ⟨hnumeral, hbehind⟩ := leadingNumeral_append h r
  obtain ⟨htake, hdrop⟩ := takeWhile_of_head hr
  rw [leadingDecimal, hnumeral, hbehind, htake, hdrop, List.append_nil]

/-- An exponent at the front of a text goes on as long as digits follow. -/
theorem prefix_leadingExponent (h : t ∈ exponents) (u : List Char) :
    t <+: leadingExponent (t ++ u) := by
  obtain rfl | h := h
  · exact List.nil_prefix
  · obtain ⟨x, n, hx, hn, rfl⟩ := mem_single_mul_iff.1 h
    rw [List.cons_append, leadingExponent, if_pos hx, (leadingNumeral_append hn u).1,
      ← List.cons_append]
    exact List.prefix_append _ _

/-- An exponent begins with a mark, unless it is empty. -/
theorem eq_nil_or_mark (h : t ∈ exponents) : t = [] ∨ ∃ x r, t = x :: r ∧ isMark x = true := by
  refine h.imp id fun h => ?_
  obtain ⟨x, r, hx, -, rfl⟩ := mem_single_mul_iff.1 h
  exact ⟨x, r, rfl, hx⟩

/-- What is behind a numeral begins with a point or a mark, unless it is empty. -/
theorem not_isDecimal_fractionExponent {f : List Char} (hf : f ∈ fractions) (ht : t ∈ exponents)
    (hne : f ++ t ≠ []) (u : List Char) :
    ∀ x ∈ (f ++ (t ++ u)).head?, isDecimal x = false := by
  obtain rfl | hf := hf
  · obtain rfl | ⟨x, r, rfl, hx⟩ := eq_nil_or_mark ht
    · exact absurd rfl hne
    · rintro _ ⟨⟩
      exact not_isDecimal_of_mark hx
  · obtain ⟨x, r, hx, -, rfl⟩ := mem_single_mul_iff.1 hf
    rintro _ ⟨⟩
    exact not_isDecimal_of_point hx

/-- A fraction and an exponent are read one behind the other. -/
theorem prefix_leadingFraction_append {f : List Char} (hf : f ∈ fractions) (ht : t ∈ exponents)
    (u : List Char) :
    f ++ t <+: leadingFraction (f ++ (t ++ u)) ++ leadingExponent (unpointed (f ++ (t ++ u))) := by
  have hexponent := prefix_leadingExponent ht u
  obtain rfl | hf := hf
  · -- a mark is no point, so there is no fraction before the exponent
    obtain rfl | ⟨x, r, rfl, hx⟩ := eq_nil_or_mark ht
    · exact List.nil_prefix
    · have hpoint : x ≠ '.' := by
        rintro rfl
        cases hx
      rw [List.nil_append, List.nil_append, List.cons_append, leadingFraction, unpointed,
        if_neg hpoint, if_neg hpoint]
      exact hexponent
  · obtain ⟨x, r, hx, hr, rfl⟩ := mem_single_mul_iff.1 hf
    obtain rfl : x = '.' := eq_of_beq hx
    obtain ⟨hfraction, hbehind⟩ := leadingFraction_append hr (t ++ u)
    rw [hfraction, hbehind]
    obtain rfl | ⟨x, s, rfl, hx⟩ := eq_nil_or_mark ht
    · rw [List.append_nil, List.append_assoc]
      exact List.prefix_append _ _
    · -- a mark is no digit, so the digits behind the point end before it
      have hhead : ∀ y ∈ (x :: s ++ u).head?, isDecimal y = false := by
        rintro _ ⟨⟩
        exact not_isDecimal_of_mark hx
      obtain ⟨htake, hdrop⟩ := takeWhile_of_head hhead
      rw [htake, hdrop, List.append_nil]
      exact (List.prefix_append_right_inj _).2 hexponent

/-- A number that a text begins with is a beginning of the longest one. -/
theorem prefix_leadingDecimal {t text : List Char} (h : t ∈ decimals) (ht : t <+: text) :
    t <+: leadingDecimal text := by
  obtain ⟨u, rfl⟩ := ht
  obtain ⟨n, hn, _, ⟨f, hf, x, hx, rfl⟩, rfl⟩ := h
  show n ++ (f ++ x) <+: leadingDecimal (n ++ (f ++ x) ++ u)
  rw [List.append_assoc n, List.append_assoc f]
  by_cases hnil : f ++ x = []
  · rw [hnil, List.append_nil, leadingDecimal, (leadingNumeral_append hn _).1, List.append_assoc]
    exact List.prefix_append _ _
  · rw [leadingDecimal_append hn (not_isDecimal_fractionExponent hf hx hnil u)]
    exact (List.prefix_append_right_inj n).2 (prefix_leadingFraction_append hf hx u)

/-! ## On every input -/

/-- What the grammar of decimal numbers does is told by the parts at the front of the text. Without
digits it fails: where it began and expecting a number, or behind a sign and expecting a digit. A
point without digits is a failure behind the point, and a mark without digits is one behind the mark
and its sign. In all other cases it succeeds behind the number at the front, which is a number of
the language and the longest that the text begins with. -/
theorem decimal_exact (c : Cursor Char) :
    (leadingDigits c.remaining = [] → leadingSign c.remaining = [] →
      (decimal.toParser env).Gives c false (.error (.expecting c numberLabel))) ∧
    (leadingDigits c.remaining = [] → leadingSign c.remaining ≠ [] →
      ∃ d : Cursor Char, d.source = c.source ∧ d.position = c.position + 1 ∧
        (decimal.toParser env).Gives c true (.error (.expecting d "digit"))) ∧
    (leadingDigits c.remaining ≠ [] → PointAlone (undigited c.remaining) →
      ∃ d : Cursor Char, d.source = c.source ∧
        d.position = c.position + (leadingNumeral c.remaining).length + 1 ∧
        (decimal.toParser env).Gives c true (.error (.expecting d "digit"))) ∧
    (leadingDigits c.remaining ≠ [] → ¬ PointAlone (undigited c.remaining) →
      ∀ x r, unpointed (undigited c.remaining) = x :: r → isMark x = true → leadingDigits r = [] →
        ∃ d : Cursor Char, d.source = c.source ∧
          d.position = c.position + (leadingNumeral c.remaining).length +
            (leadingFraction (undigited c.remaining)).length + 1 + (leadingSign r).length ∧
          (decimal.toParser env).Gives c true (.error (.expecting d "digit"))) ∧
    (leadingDigits c.remaining ≠ [] → ¬ PointAlone (undigited c.remaining) →
      ¬ MarkAlone (unpointed (undigited c.remaining)) →
      (∃ (x : Float) (d : Cursor Char), d.source = c.source ∧
        d.position = c.position + (leadingDecimal c.remaining).length ∧
        (decimal.toParser env).Gives c true (.ok x d)) ∧
      leadingDecimal c.remaining ∈ decimals ∧ leadingDecimal c.remaining <+: c.remaining ∧
      ∀ t ∈ decimals, t <+: c.remaining → t <+: leadingDecimal c.remaining) := by
  have hnumeral := (leadingNumeral_append_undigited c.remaining).symm
  have hdecimal := (leadingDecimal_append_unmarked c.remaining).symm
  refine ⟨fun hnil hs => ?_, fun hnil hs => ?_, fun hne hpoint => ?_,
    fun hne hpoint x r hr hx hnil => ?_, fun hne hpoint hmark => ?_⟩
  · rw [leadingNumeral, hs, hnil] at hnumeral
    exact (misses_decimal env hnil hs).gives hnumeral rfl hnumeral
  · obtain ⟨d, hsource, hposition, hgives⟩ := (misses_decimal_digit env hnil hs).exists_gives
      (List.append_ne_nil_of_left_ne_nil hs _) hnumeral
    rw [leadingNumeral, hnil, List.append_nil, length_leadingSign hs] at hposition
    exact ⟨d, hsource, hposition, hgives⟩
  · obtain ⟨d, hsource, hposition, hgives⟩ := (misses_decimal_fraction env hne hpoint).exists_gives
      (wholeAndFraction_ne_nil hne) (wholeAndFraction_append_unpointed c.remaining).symm
    rw [leadingFraction_of_pointAlone hpoint, List.length_append, ← Nat.add_assoc] at hposition
    exact ⟨d, hsource, hposition, hgives⟩
  · have hmark : MarkAlone (unpointed (undigited c.remaining)) := ⟨x, r, hr, hx, hnil⟩
    obtain ⟨d, hsource, hposition, hgives⟩ :=
      (misses_decimal_exponent env hne hpoint hmark).exists_gives
        (leadingDecimal_ne_nil hne) hdecimal
    refine ⟨d, hsource, ?_, hgives⟩
    rw [hposition, leadingDecimal, hr, leadingExponent_of_nil hx hnil]
    simp only [List.length_append, List.length_cons]
    omega
  · obtain ⟨d, hsource, hposition, hgives⟩ := (reads_decimal env hne hpoint hmark).exists_gives
      (leadingDecimal_ne_nil hne) hdecimal
    exact ⟨⟨_, d, hsource, hposition, hgives⟩, leadingDecimal_mem hne hpoint hmark,
      ⟨_, hdecimal.symm⟩, fun t ht hnext => prefix_leadingDecimal ht hnext⟩

/-- The grammar of decimal numbers by itself. -/
def decimalAlone : Parser Char Float :=
  (decimal : Grammar Char (fun _ => Empty) Float).toParser fun r => r.elim

/-- A number breaks off behind a sign, behind a point and behind the sign of an exponent, and the
digits before it are not enough; with all its parts it is read up to the comma. -/
theorem decimal_exact_at_parts :
    decimalAlone.Gives (.start 0 #['x']) false
      (.error (.expecting (.start 0 #['x']) numberLabel)) ∧
    (∃ d, d.position = 1 ∧ decimalAlone.Gives (.start 0 #['-', 'x']) true
      (.error (.expecting d "digit"))) ∧
    (∃ d, d.position = 2 ∧ decimalAlone.Gives (.start 0 #['1', '.', 'x']) true
      (.error (.expecting d "digit"))) ∧
    (∃ d, d.position = 5 ∧ decimalAlone.Gives (.start 0 #['1', '.', '5', 'e', '+', 'x']) true
      (.error (.expecting d "digit"))) ∧
    ∃ x d, d.position = 7 ∧ decimalAlone.Gives
      (.start 0 #['-', '1', '.', '5', 'E', '+', '3', ',']) true (.ok x d) := by
  refine ⟨?_, ?_, ?_, ?_, ?_⟩
  · exact (decimal_exact (fun r : Empty => r.elim) (.start 0 #['x'])).1 rfl rfl
  · obtain ⟨-, hsign, -⟩ := decimal_exact (fun r : Empty => r.elim) (.start 0 #['-', 'x'])
    obtain ⟨d, -, hposition, hgives⟩ := hsign rfl (by decide)
    exact ⟨d, hposition, hgives⟩
  · obtain ⟨-, -, hpoint, -⟩ := decimal_exact (fun r : Empty => r.elim) (.start 0 #['1', '.', 'x'])
    obtain ⟨d, -, hposition, hgives⟩ := hpoint (by decide) (by decide)
    exact ⟨d, hposition, hgives⟩
  · obtain ⟨-, -, -, hmark, -⟩ := decimal_exact (fun r : Empty => r.elim)
      (.start 0 #['1', '.', '5', 'e', '+', 'x'])
    obtain ⟨d, -, hposition, hgives⟩ :=
      hmark (by decide) (by decide) 'e' ['+', 'x'] rfl rfl rfl
    exact ⟨d, hposition, hgives⟩
  · obtain ⟨-, -, -, -, hread⟩ := decimal_exact (fun r : Empty => r.elim)
      (.start 0 #['-', '1', '.', '5', 'E', '+', '3', ','])
    obtain ⟨⟨x, d, -, hposition, hgives⟩, -⟩ :=
      hread (by decide) (by decide) (by decide)
    exact ⟨x, d, hposition, hgives⟩

end ParserKit.Grammar
