import ParserKit.Grammar.Text
import ParserKit.Proofs.Parser.Missing

/-!
# Literals are read exactly

A literal is read character by character, so what it does is told by the text that it has in common
with the symbols left. If this is all of the literal, the literal is read. Otherwise the first
character behind it is missing, and the failure is where that character should have been. Behind
characters that were read it expects this character; at the first one the label of the whole counts,
and the failure expects the literal.

The characters are folded into one sequence from the left, which begins with an empty success. So
both halves, reading and failing, are inductions on the characters still to come, with a sequence of
those before.

## Main definitions

* `Grammar.commonPrefix`: the longest text that two texts begin with

## Main results

* `Grammar.reads_literal`, `Grammar.begins_literal`: where a literal is read, and how it begins
* `Grammar.misses_literal`: what is missing behind a part of a literal
* `Grammar.literal_exact`: what a literal does, on every input
-/

namespace ParserKit.Grammar

open Text

variable {ρ : Type → Type} (env : {α : Type} → ρ α → Parser Char α) {s t u r : List Char}
  {x : Char} {name : String}

/-! ## One character -/

theorem reads_chr (x : Char) (r : List Char) : ((chr x).toParser env).Reads [x] r x :=
  (Parser.reads_satisfy (· == x) (beq_self_eq_true x) r).label _

theorem begins_chr (x : Char) : ((chr x).toParser env).Begins (· == x) :=
  (Parser.begins_satisfy _).label _

/-- A character that does not stand next is missing, under its quoted name. -/
theorem misses_chr (h : x ∉ r.head?) : ((chr x).toParser env).Misses [] r (quoteChar x) := by
  refine (Parser.misses_satisfy fun y hy => ?_).label _
  exact beq_false_of_ne fun hyx => h (hyx ▸ hy)

/-! ## Characters one after the other -/

theorem reads_foldl_chars (cs : List Char) (before : Grammar Char ρ Unit)
    (h : (before.toParser env).Reads t (cs ++ r) ()) :
    ((cs.foldl (fun before c => (before.seqRight (chr c)).map fun _ => ()) before).toParser
      env).Reads (t ++ cs) r () := by
  induction cs generalizing t before with
  | nil =>
    rw [List.append_nil]
    exact h
  | cons c cs ih =>
    have hc : (((before.seqRight (chr c)).map fun _ => ()).toParser env).Reads (t ++ [c])
        (cs ++ r) () :=
      (Parser.Reads.seqRight (u := [c]) h (reads_chr env c (cs ++ r))).map fun _ => ()
    rw [List.append_cons]
    exact ih _ hc

theorem begins_foldl_chars (cs : List Char) {before : Grammar Char ρ Unit} {starts : Char → Bool}
    (h : (before.toParser env).Begins starts) :
    ((cs.foldl (fun before c => (before.seqRight (chr c)).map fun _ => ()) before).toParser
      env).Begins starts := by
  induction cs generalizing before with
  | nil => exact h
  | cons c cs ih => exact ih (h.bind.map fun _ => ())

/-- What is missing before some characters is missing with them behind it. -/
theorem misses_foldl_chars (cs : List Char) {before : Grammar Char ρ Unit}
    (h : (before.toParser env).Misses t r name) :
    ((cs.foldl (fun before c => (before.seqRight (chr c)).map fun _ => ()) before).toParser
      env).Misses t r name := by
  induction cs generalizing before with
  | nil => exact h
  | cons c cs ih => exact ih (h.bind.map fun _ => ())

theorem reads_chars (cs r : List Char) : ((chars cs).toParser env).Reads cs r () :=
  reads_foldl_chars env cs (retn ()) (Parser.reads_retn () _)

/-- Where a part of the characters is read and the next one is not there, it is missing. -/
theorem misses_chars (h : x ∉ r.head?) :
    ((chars (t ++ x :: u)).toParser env).Misses t r (quoteChar x) := by
  have hnext : ((((chars t).seqRight (chr x)).map fun _ => ()).toParser env).Misses (t ++ []) r
      (quoteChar x) :=
    (Parser.Reads.seqRight_misses (reads_chars env t ([] ++ r)) (misses_chr env h)).map fun _ => ()
  rw [List.append_nil] at hnext
  rw [chars, List.foldl_append, List.foldl_cons]
  exact misses_foldl_chars env u hnext

/-! ## Literals -/

theorem reads_literal (text : String) (r : List Char) :
    ((literal text).toParser env).Reads text.toList r text :=
  ((reads_chars env text.toList r).map _).label _

theorem begins_literal {text : String} {cs : List Char} (h : text.toList = x :: cs) :
    ((literal text).toParser env).Begins (· == x) := by
  have hfirst : (((retn ()).seqRight (chr x)).map fun _ => ()).toParser env |>.Begins (· == x) := by
    intro y r hy
    exact ((Parser.reads_retn () _).bind_rejects (begins_chr env x y r hy)).map _
  have hchars := begins_foldl_chars env cs hfirst
  simp only [literal, chars, h]
  exact (hchars.map _).label _

/-- At the first character the literal as a whole is missing. -/
theorem misses_literal_of_nil {text : String} (htext : text.toList = x :: u) (h : x ∉ r.head?) :
    ((literal text).toParser env).Misses [] r (quoteString text) := by
  have hchars := misses_chars env (t := []) (u := u) h
  rw [List.nil_append, ← htext] at hchars
  exact (hchars.map _).label _

/-- Behind characters that were read the next one is missing. -/
theorem misses_literal {text : String} (htext : text.toList = t ++ x :: u) (ht : t ≠ [])
    (h : x ∉ r.head?) : ((literal text).toParser env).Misses t r (quoteChar x) := by
  have hchars := misses_chars env (t := t) (u := u) h
  rw [← htext] at hchars
  exact (hchars.map _).label_of_ne_nil _ ht

/-! ## The text in common -/

/-- The longest text that both texts begin with. -/
def commonPrefix : List Char → List Char → List Char
  | x :: s, y :: t => if x = y then x :: commonPrefix s t else []
  | _, _ => []

/-- Behind the text that they have in common the two texts differ, or one of them ends. -/
theorem exists_eq_commonPrefix_append (s t : List Char) :
    ∃ u v, s = commonPrefix s t ++ u ∧ t = commonPrefix s t ++ v ∧ ∀ x ∈ u.head?, x ∉ v.head? := by
  induction s generalizing t with
  | nil => exact ⟨[], t, rfl, rfl, nofun⟩
  | cons x s ih =>
    cases t with
    | nil => exact ⟨x :: s, [], rfl, rfl, fun _ _ => nofun⟩
    | cons y t =>
      by_cases hxy : x = y
      · subst hxy
        obtain ⟨u, v, hs, ht, hdiffer⟩ := ih t
        rw [commonPrefix, if_pos rfl]
        exact ⟨u, v, congrArg _ hs, congrArg _ ht, hdiffer⟩
      · rw [commonPrefix, if_neg hxy]
        refine ⟨x :: s, y :: t, rfl, rfl, ?_⟩
        rintro _ ⟨⟩ ⟨⟩
        exact hxy rfl

theorem prefix_commonPrefix (hs : u <+: s) (ht : u <+: t) : u <+: commonPrefix s t := by
  induction u generalizing s t with
  | nil => exact List.nil_prefix
  | cons x u ih =>
    obtain ⟨s', rfl, hs'⟩ := List.cons_prefix_iff.1 hs
    obtain ⟨t', rfl, ht'⟩ := List.cons_prefix_iff.1 ht
    rw [commonPrefix, if_pos rfl]
    exact List.cons_prefix_cons.2 ⟨rfl, ih hs' ht'⟩

/-- The part of a literal that the symbols left begin with. -/
def matched (text : String) (c : Cursor Char) : List Char := commonPrefix text.toList c.remaining

/-- What a literal does is told by the longest text that the literal and the symbols left have in
common. If it is the literal, the literal is read, and input is consumed unless it is empty. If it
is empty and the literal is not, the failure is where the run began and expects the quoted literal.
Otherwise the failure is behind it, after consumption, and expects the quoted character of the
literal that should have been there. -/
theorem literal_exact (text : String) (c : Cursor Char) :
    (matched text c <+: text.toList ∧ matched text c <+: c.remaining ∧
      ∀ t, t <+: text.toList → t <+: c.remaining → t <+: matched text c) ∧
    ∃ d : Cursor Char, d.source = c.source ∧ d.position = c.position + (matched text c).length ∧
      ((matched text c).length = text.toList.length →
        ((literal text).toParser env).Gives c (decide (text ≠ "")) (.ok text d)) ∧
      ((matched text c).length = 0 → 0 < text.toList.length →
        ((literal text).toParser env).Gives c false (.error (.expecting c (quoteString text)))) ∧
      (0 < (matched text c).length → ∀ h : (matched text c).length < text.toList.length,
        ((literal text).toParser env).Gives c true
          (.error (.expecting d (quoteChar text.toList[(matched text c).length])))) := by
  obtain ⟨u, v, htext, hleft, hdiffer⟩ := exists_eq_commonPrefix_append text.toList c.remaining
  refine ⟨⟨⟨u, htext.symm⟩, ⟨v, hleft.symm⟩, fun t => prefix_commonPrefix⟩, ?_⟩
  rw [← matched] at htext hleft
  generalize matched text c = t at *
  obtain ⟨d, hsource, hposition, hrest⟩ := Cursor.exists_behind hleft
  refine ⟨d, hsource, hposition, fun hall => ?_, fun hnone hsome => ?_, fun hpart hmore => ?_⟩
  · have ht : text.toList = t := (List.IsPrefix.eq_of_length ⟨u, htext.symm⟩ hall).symm
    rw [← ht] at hleft
    have htag : decide (text ≠ "") = !text.toList.isEmpty := by
      rw [Bool.eq_iff_iff]
      simp
    exact htag ▸ (reads_literal env text v).gives hleft hsource hrest
  · obtain rfl := List.eq_nil_of_length_eq_zero hnone
    rw [htext, List.nil_append] at hsome
    obtain ⟨x, u, rfl⟩ := List.exists_cons_of_length_pos hsome
    exact (misses_literal_of_nil env htext (hdiffer x rfl)).gives hleft rfl hleft
  · -- the literal goes on with the character that is missing
    have hx : text.toList[t.length]? = u.head? := by
      rw [htext, List.getElem?_append_right (Nat.le_refl _), Nat.sub_self, List.head?_eq_getElem?]
    rw [List.getElem?_eq_getElem hmore] at hx
    obtain ⟨u, rfl⟩ := List.head?_eq_some_iff.1 hx.symm
    have ht : t ≠ [] := List.ne_nil_of_length_pos hpart
    exact (misses_literal env htext ht (hdiffer _ rfl)).gives_consumed ht hleft hsource hrest

/-- A literal by itself. -/
def literalAlone (text : String) : Parser Char String :=
  (literal text : Grammar Char (fun _ => Empty) String).toParser fun r => r.elim

/-- A literal that begins like the input breaks off at the first character that differs, one that
does not is missing as a whole, and the empty literal is read everywhere. -/
theorem literal_exact_at_parts :
    (∃ d, d.position = 2 ∧ (literalAlone "true").Gives (.start 0 #['t', 'r', 'a', 'p']) true
      (.error (.expecting d "'u'"))) ∧
    (literalAlone "true").Gives (.start 0 #['f']) false
      (.error (.expecting (.start 0 #['f']) "\"true\"")) ∧
    (∃ d, d.position = 2 ∧ (literalAlone "éé").Gives (.start 0 #['é', 'é']) true (.ok "éé" d)) ∧
    ∃ d, d.position = 0 ∧ (literalAlone "").Gives (.start 0 #['f']) false (.ok "" d) := by
  refine ⟨?_, ?_, ?_, ?_⟩
  · obtain ⟨-, d, -, hposition, -, -, hpart⟩ := literal_exact (fun r : Empty => r.elim) "true"
      (.start 0 #['t', 'r', 'a', 'p'])
    exact ⟨d, hposition, hpart (by decide) (by decide)⟩
  · obtain ⟨-, d, -, -, -, hnone, -⟩ := literal_exact (fun r : Empty => r.elim) "true"
      (.start 0 #['f'])
    exact hnone (by decide) (by decide)
  · obtain ⟨-, d, -, hposition, hall, -⟩ := literal_exact (fun r : Empty => r.elim) "éé"
      (.start 0 #['é', 'é'])
    exact ⟨d, hposition, hall (by decide)⟩
  · obtain ⟨-, d, -, hposition, hall, -⟩ := literal_exact (fun r : Empty => r.elim) ""
      (.start 0 #['f'])
    exact ⟨d, hposition, hall (by decide)⟩

end ParserKit.Grammar
