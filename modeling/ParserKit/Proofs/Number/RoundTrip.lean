import ParserKit.Proofs.Grammar.Literal
import ParserKit.Proofs.Number.Integer

/-!
# Lists of integers are read back

A word is written with a minus, if it is negative, and the digits of its magnitude. The digits spell
the magnitude, so the sign and the digits spell the word, which is in range by being one: the least
word is read back though its opposite is none.

An integer is read up to the first character that is no digit. In a list a comma stands there, or
the end of the input, so each integer is read up to its end and no further. A comma behind the last
integer is read as a separator, and then an integer is missing at the end of the input.

## Main definitions

* `Grammar.integers`: integers with commas between them, up to the end of the input
* `Grammar.joined`: the text of a list of words

## Main results

* `Grammar.reads_toString`: a word is read back from its text
* `Grammar.integers_roundTrip`: so are lists of words, and a comma too many is a failure at the end
-/

namespace ParserKit

/-! ## The text of a word -/

namespace Number

/-- The values of digits spell what the digits do. -/
theorem ofDigits_map_digitValue (ds : List Char) :
    Nat.ofDigits 10 (ds.map digitValue).reverse = Nat.ofDigitChars 10 ds 0 := by
  rw [Nat.ofDigits_eq_foldr, List.foldr_reverse, List.foldl_map, Nat.ofDigitChars_eq_foldl]
  refine congrArg (ds.foldl · 0) (funext₂ fun n x => ?_)
  exact Nat.add_comm _ _

/-- The text of a word: the sign, and the decimal digits of its size. -/
theorem toList_toString (w : Int64) :
    (toString w).toList =
      (if w.toInt < 0 then ['-'] else []) ++ Nat.toDigits 10 w.toInt.natAbs := by
  show (toString w.toInt).toList = _
  rw [Int.toString_eq_repr, Int.repr_eq_if]
  by_cases h : w.toInt < 0
  · have hmagnitude : (-w.toInt).toNat = w.toInt.natAbs := by omega
    rw [if_pos h, if_neg (Int.not_le.2 h), hmagnitude, String.toList_append, Nat.toList_repr]
    rfl
  · have hmagnitude : w.toInt.toNat = w.toInt.natAbs := by omega
    rw [if_neg h, if_pos (Int.not_lt.1 h), hmagnitude, Nat.toList_repr]
    rfl

/-- The sign and the digits of a word spell the word. -/
theorem spelled_toDigits (w : Int64) :
    spelled (decide (w.toInt < 0)) ((Nat.toDigits 10 w.toInt.natAbs).map digitValue) = w.toInt := by
  -- the sign is put before a natural number here, and not before a word, which might not fit
  rw [spelled, ofDigits_map_digitValue, Nat.ofDigitChars_ten_toDigits]
  by_cases h : w.toInt < 0
  · rw [decide_eq_true h, if_pos rfl]
    omega
  · rw [decide_eq_false h, if_neg Bool.false_ne_true]
    omega

end Number

namespace Grammar

variable {ρ : Type → Type} (env : {α : Type} → ρ α → Parser Char α) {r : List Char}

/-! ## One integer -/

/-- Decimal digits are digits that are read. -/
theorem isDecimal_of_mem_toDigits {n : Nat} {x : Char} (h : x ∈ Nat.toDigits 10 n) :
    isDecimal x = true :=
  Nat.isDigit_of_mem_toDigits (by decide) (by decide) h

/-- Before a digit the sign is read that is there, or none. -/
theorem reads_sign_toDigits (negative : Bool) (n : Nat) (r : List Char) :
    (sign.toParser env).Reads (if negative then ['-'] else []) (Nat.toDigits 10 n ++ r)
      negative := by
  cases negative with
  | true => exact reads_sign env ('-' :: (Nat.toDigits 10 n ++ r))
  | false =>
    -- the digits begin with one, which is no sign
    obtain ⟨x, ds, hds⟩ := List.exists_cons_of_ne_nil (Nat.toDigits_ne_nil (n := n) (b := 10))
    have hx : isDecimal x = true := isDecimal_of_mem_toDigits (hds ▸ List.mem_cons_self)
    have hnone := leadingSign_of_isDecimal hx (ds ++ r)
    have hsign := reads_sign env (x :: (ds ++ r))
    rw [unsigned, hnone] at hsign
    rw [hds]
    exact hsign

/-- No digit stands next, so a row of digits ends here. -/
def EndsDigits (r : List Char) : Prop := ∀ x ∈ r.head?, isDecimal x = false

/-- A word is read back from its text, up to the first character that is no digit. -/
theorem reads_toString (w : Int64) (hr : EndsDigits r) :
    (integer.toParser env).Reads (toString w).toList r w := by
  have hdigits := reads_digits env Nat.toDigits_ne_nil
    (fun _ => isDecimal_of_mem_toDigits (n := w.toInt.natAbs)) hr
  have hnumber := reads_number env hdigits
    (Number.ofDigits?_eq_some_iff.2 (Number.spelled_toDigits w).symm)
  have hsign := reads_sign_toDigits env (decide (w.toInt < 0)) w.toInt.natAbs r
  have hboth := hsign.bind (k := fun negative => (number negative).toParser env) hnumber
  simp only [decide_eq_true_eq] at hboth
  rw [Number.toList_toString, integer_eq]
  exact hboth.label integerLabel

/-! ## Lists of integers -/

/-- Integers with commas between them, up to the end of the input. -/
def integers : Grammar Char ρ (List Int64) := (integer.sepBy (chr ',')).seqLeft eof

/-- The text of a list of words. -/
def joined (ws : List Int64) : String := ",".intercalate (ws.map toString)

/-- Joined texts are words with a comma between any two. -/
theorem separated_joined (ws : List Int64) :
    Separated (· = [',']) (fun w t => t = (toString w).toList) ws (joined ws).toList := by
  have htext : (joined ws).toList = [','].intercalate (ws.map fun w => (toString w).toList) := by
    rw [joined, String.toList_intercalate, List.map_map]
    rfl
  rw [htext]
  exact separated_intercalate _ _ ws

/-- Where a text ends no integer begins. -/
theorem rejects_integer_nil : (integer.toParser env).Rejects [] := by
  have hdigits : (digits.toParser env).Rejects [] :=
    ((Parser.rejects_satisfy nofun).label _).map _ |>.many1
  have hsign : (sign.toParser env).Reads [] [] false := reads_sign env []
  rw [integer_eq]
  exact (hsign.bind_rejects (k := fun negative => (number negative).toParser env)
    hdigits.bind).label integerLabel

/-- An integer is read up to the comma behind it, and the comma by itself. -/
theorem integers_alternate :
    Parser.Alternates (integer.toParser env) ((chr ',').toParser env)
      (fun w t => t = (toString w).toList) (· = [',']) EndsDigits id ',' where
  ne_nil _ hs := hs ▸ List.cons_ne_nil _ _
  follow := by
    rintro _ u rfl x ⟨⟩
    rfl
  reads_item w _ _ ht hr := ht ▸ reads_toString env w hr
  reads_sep _ _ _ _ hs _ := hs ▸ reads_chr env ',' _

/-- Words with commas between them are read back, up to the end of the input. -/
theorem reads_integers (ws : List Int64) :
    (integers.toParser env).Reads (joined ws).toList [] ws := by
  have hend : EndsDigits [] := fun _ => nofun
  have hcomma : ((chr ',').toParser env).Rejects [] :=
    (Parser.rejects_satisfy (r := []) fun _ => nofun).label _
  have hitems := (integers_alternate env).reads_sepBy (separated_joined ws) hend hcomma
    (rejects_integer_nil env)
  have hall := Parser.Reads.seqLeft (u := []) hitems Parser.reads_eof
  rw [List.append_nil, List.map_id] at hall
  exact hall

/-- Behind a comma at the end of the input an integer is missing. -/
theorem misses_integers {ws : List Int64} (hws : ws ≠ []) :
    (integers.toParser env).Misses ((joined ws).toList ++ [',']) [] integerLabel := by
  obtain ⟨w, ws, rfl⟩ := List.exists_cons_of_ne_nil hws
  have hnone : leadingDigits [] = [] := rfl
  have hitems := (integers_alternate env).misses_sepBy (separated_joined (w :: ws)) rfl
    (reads_chr env ',' []) (misses_integer env hnone rfl)
  exact hitems.seqLeft

/-- Words that are written with commas between them are read back: none, the least one and the
greatest one as well, and as many as there are. With a comma behind the last one the parse fails at
the end of the input, and an integer is expected there. -/
theorem integers_roundTrip (id : Nat) (ws : List Int64) :
    (integers.toParser env).parseValue (.start id (joined ws).toList.toArray) = pure (.ok ws) ∧
    (ws ≠ [] → (integers.toParser env).parseValue
        (.start id (joined ws ++ ",").toList.toArray) =
      pure (.error ⟨(joined ws ++ ",").length, none, .singleton "integer"⟩)) := by
  refine ⟨(reads_integers env ws).parseValue id, fun hws => ?_⟩
  have hmissing := (misses_integers env hws).parseValue id
  have htext : (joined ws ++ ",").toList = (joined ws).toList ++ [','] := String.toList_append
  rw [← String.length_toList, htext]
  exact hmissing

/-- A list with both ends of the range is read back, and with a comma too many behind it is not. -/
theorem integers_roundTrip_of_ends :
    let p := (integers : Grammar Char (fun _ => Empty) (List Int64)).toParser fun r => r.elim
    p.parseValue (.start 0 "-9223372036854775808,0,9223372036854775807".toList.toArray) =
      pure (.ok [Int64.minValue, 0, Int64.maxValue]) ∧
    [Int64.minValue, 0, Int64.maxValue] ≠ [] ∧
    p.parseValue (.start 0 "-9223372036854775808,0,9223372036854775807,".toList.toArray) =
      pure (.error ⟨43, none, .singleton "integer"⟩) := by
  have htext : joined [Int64.minValue, 0, Int64.maxValue] =
      "-9223372036854775808,0,9223372036854775807" := by decide
  have hne : [Int64.minValue, 0, Int64.maxValue] ≠ [] := List.cons_ne_nil _ _
  obtain ⟨hread, hcomma⟩ := integers_roundTrip (fun r : Empty => r.elim) 0
    [Int64.minValue, 0, Int64.maxValue]
  rw [htext] at hread hcomma
  exact ⟨hread, hne, hcomma hne⟩

end Grammar

end ParserKit
