import Mathlib.Data.Set.Insert
import ParserKit.Proofs.Merging
import ParserKit.Session.Messages

/-!
# How messages are worded

A message may be made in many ways: its labels can be added one by one or come from messages that
are merged, in any order and with repetitions. What is told of it does not show this. The labels
that it has in the end are a set, said here for each way to make a message; the message keeps them
as a list in increasing order, and the list is all that its text depends on, besides the place and
the symbol.

## Main definitions

* `Labels.separator`: what stands before a label in the text
* `Message.Making`: the ways to make a message
* `Message.Making.labels`: the set of labels that it has in the end
* `MessagePool.makings`: how the messages of a pool were made

## Main results

* `Labels.render_eq_join`: the labels as a text, one after the other
* `Message.Making.mem_expected_message`: the labels of a message are those of its making
* `MessagePool.messages_after`: every message of a pool is what comes of its making
* `Message.wording_laws`: the text of a message depends on its set of labels
-/

namespace ParserKit

/-! ## Labels as a text -/

namespace Labels

variable {s : Labels}

/-- What stands before the label number `i` of `n` labels. -/
def separator (n i : Nat) : String :=
  if i = 0 then "" else if i + 1 < n then ", " else if n = 2 then " or " else ", or "

theorem separator_zero (n : Nat) : separator n 0 = "" := if_pos rfl

theorem separator_of_lt {n i : Nat} (h : i + 2 < n) : separator n (i + 1) = ", " := by
  rw [separator, if_neg (Nat.succ_ne_zero i), if_pos h]

theorem separator_last {n : Nat} (h : n ≠ 0) : separator (n + 2) (n + 1) = ", or " := by
  have hne : n + 2 ≠ 2 := fun heq => h (Nat.add_right_cancel (heq.trans (Nat.zero_add 2).symm))
  rw [separator, if_neg (Nat.succ_ne_zero n), if_neg (Nat.lt_irrefl _), if_neg hne]

theorem intercalate_cons_eq_join (sep x : String) (xs : List String) :
    sep.intercalate (x :: xs) = x ++ String.join (xs.map (sep ++ ·)) := by
  induction xs generalizing x with
  | nil => rw [String.intercalate_singleton, List.map_nil, String.join_nil, String.append_empty]
  | cons y xs ih =>
    rw [String.intercalate_cons_cons, ih, List.map_cons, String.join_cons, String.append_assoc,
      String.append_assoc]

/-- Three labels or more have commas between them, and an "or" before the last one. -/
theorem render_of_three {a z : String} {mid : List String} (hmid : mid ≠ [])
    (h : s.toList = a :: (mid ++ [z])) :
    s.render = ", ".intercalate ((a :: mid).map quote) ++ ", or " ++ quote z := by
  have hlength : 3 ≤ s.toList.length := by
    have hpos := List.length_pos_iff.2 hmid
    rw [h, List.length_cons, List.length_append, List.length_singleton]
    omega
  unfold render
  split
  · next hs => simp [hs] at hlength
  · next hs => simp [hs] at hlength
  · next hs => simp [hs] at hlength
  · next b c d rest hs =>
    have hall : b :: c :: d :: rest = (a :: mid) ++ [z] := hs.symm.trans h
    simp only [hall, List.dropLast_concat, List.getLast_concat]

/-- The text of one label or more has each of them once and in order, with a separator before it. -/
theorem render_eq_join (h : s.toList ≠ []) :
    s.render =
      String.join (s.toList.mapIdx fun i a => separator s.toList.length i ++ quote a) := by
  obtain ⟨a, rest, hs⟩ := List.exists_cons_of_ne_nil h
  obtain rfl | ⟨mid, z, rfl⟩ := List.eq_nil_or_concat rest
  · rw [render, hs]
    simp [separator]
  · rw [List.concat_eq_append] at hs
    by_cases hmid : mid = []
    · subst hmid
      rw [render, hs]
      simp [separator, String.append_assoc]
    · have hcommas : mid.mapIdx (fun i b => separator (mid.length + 2) (i + 1) ++ quote b) =
          (mid.map quote).map (", " ++ ·) := by
        refine List.ext_getElem (by simp) fun i hi _ => ?_
        rw [List.length_mapIdx] at hi
        rw [List.getElem_mapIdx, List.getElem_map, List.getElem_map,
          separator_of_lt (Nat.add_lt_add_right hi 2)]
      have hlast := separator_last fun h => hmid (List.length_eq_zero_iff.1 h)
      have hlength : s.toList.length = mid.length + 2 := by
        rw [hs, List.length_cons, List.length_append, List.length_singleton]
      rw [render_of_three hmid hs, hlength, hs, List.map_cons, intercalate_cons_eq_join,
        List.mapIdx_cons, List.mapIdx_append, hcommas, List.mapIdx_cons, List.mapIdx_nil,
        String.join_cons, String.join_append, String.join_cons, String.join_nil, separator_zero,
        Nat.zero_add, hlast]
      simp only [String.append_assoc, String.empty_append, String.append_empty]

end Labels

/-! ## Ways to make a message -/

namespace Message

variable {σ : Type} {a : String}

/-- A way to make a message. -/
inductive Making (σ : Type) where
  /-- A message that expects nothing. -/
  | bare (position : Nat) (unexpected : Option σ)
  /-- A message on the symbol under a cursor. -/
  | on (c : Cursor σ)
  /-- A message on the symbol under a cursor, with a label. -/
  | expecting (c : Cursor σ) (label : String)
  /-- One more label. -/
  | withExpected (f : Making σ) (label : String)
  /-- Another label instead of those before. -/
  | relabel (f : Making σ) (label : String)
  /-- The merge of two messages. -/
  | merge (f g : Making σ)

namespace Making

/-- The message that is made. -/
def message : Making σ → Message σ
  | bare position unexpected => .bare position unexpected
  | on c => .on c
  | expecting c label => .expecting c label
  | withExpected f label => f.message.withExpected label
  | relabel f label => f.message.relabel label
  | merge f g => f.message.merge g.message

/-- The place of the message: of messages that are merged, the one that is further along. -/
def position : Making σ → Nat
  | bare position _ => position
  | on c | expecting c _ => c.position
  | withExpected f _ | relabel f _ => f.position
  | merge f g => max f.position g.position

/-- The labels in the end. A new label replaces the others, and a message that is behind another one
loses its labels when they are merged. -/
def labels : Making σ → Set String
  | bare _ _ | on _ => ∅
  | expecting _ label => {label}
  | withExpected f label => Insert.insert label f.labels
  | relabel _ label => {label}
  | merge f g =>
    {a | g.position ≤ f.position ∧ a ∈ f.labels ∨ f.position ≤ g.position ∧ a ∈ g.labels}

theorem position_message (f : Making σ) : f.message.position = f.position := by
  induction f with
  | bare | on | expecting => rfl
  | withExpected f label ih => exact ih
  | relabel f label ih => exact ih
  | merge f g hf hg =>
    rw [position, ← hf, ← hg, message]
    obtain hlt | heq | hgt := Nat.lt_trichotomy f.message.position g.message.position
    · rw [merge_of_lt hlt, Nat.max_eq_right (Nat.le_of_lt hlt)]
    · rw [merge_of_eq heq, heq, Nat.max_self]
    · rw [merge_of_gt hgt, Nat.max_eq_left (Nat.le_of_lt hgt)]

/-- The labels of a message are those of its making. -/
theorem mem_expected_message (f : Making σ) : a ∈ f.message.expected ↔ a ∈ f.labels := by
  induction f with
  | bare | on => exact iff_of_false (Labels.not_mem_empty a) (Set.notMem_empty a)
  | expecting c label =>
    exact Labels.mem_insert.trans (or_iff_left (Labels.not_mem_empty a))
  | withExpected f label ih => exact Labels.mem_insert.trans (or_congr_right ih)
  | relabel f label => exact List.mem_singleton
  | merge f g hf hg =>
    rw [labels, Set.mem_ofPred_eq, ← hf, ← hg, ← position_message f, ← position_message g, message]
    obtain hlt | heq | hgt := Nat.lt_trichotomy f.message.position g.message.position
    · simp [merge_of_lt hlt, Nat.le_of_lt hlt, Nat.not_le.2 hlt]
    · simp [merge_of_eq heq, heq, Labels.mem_union]
    · simp [merge_of_gt hgt, Nat.le_of_lt hgt, Nat.not_le.2 hgt]

/-- A message expects nothing exactly if nothing was ever named. -/
theorem toList_expected_eq_nil_iff (f : Making σ) :
    f.message.expected.toList = [] ↔ f.labels = ∅ := by
  rw [List.eq_nil_iff_forall_not_mem, Set.eq_empty_iff_forall_notMem]
  exact forall_congr' fun _ => not_congr f.mem_expected_message

/-- Messages at one place, with one symbol, have the same text if their makings have the same
labels. -/
theorem render_congr [Symbol σ] {f g : Making σ}
    (hposition : f.message.position = g.message.position)
    (hsymbol : f.message.unexpected = g.message.unexpected) (hlabels : f.labels = g.labels) :
    f.message.render = g.message.render := by
  have hexpected : f.message.expected = g.message.expected := Labels.ext_mem fun a => by
    rw [mem_expected_message, mem_expected_message, hlabels]
  rw [render, render, hposition, hsymbol, hexpected]

end Making

end Message

/-! ## Messages of a pool -/

namespace MessagePool

open Message (Making)

variable {σ : Type}

/-- How a step makes a message, from the ways in which those before were made. -/
def making? (fs : Array (Making σ)) : MessageStep σ → Option (Making σ)
  | .bare position unexpected => some (.bare position unexpected)
  | .on input offset label =>
    ((Cursor.start 0 input).advanceBy offset).toOption.map fun c =>
      label.elim (.on c) (.expecting c)
  | .withExpected i label => fs[i]?.map (.withExpected · label)
  | .relabel i label => fs[i]?.map (.relabel · label)
  | .merge i j => fs[i]?.bind fun f => fs[j]?.map (.merge f)
  | .ask _ _ | .same _ _ => none

/-- How the messages were made after a number of steps, from the ways in which those before were. -/
def makings (fs : Array (Making σ)) (steps : List (MessageStep σ)) : Array (Making σ) :=
  steps.foldl (fun fs s => (making? fs s).elim fs fs.push) fs

variable [Symbol σ] [DecidableEq σ]

/-- The pool after a number of steps. -/
def after (p : MessagePool σ) (steps : List (MessageStep σ)) : MessagePool σ :=
  steps.foldl (fun p s => (p.step s).1) p

variable {p : MessagePool σ} {fs : Array (Making σ)}

/-- A step puts the message into the pool that comes of its making, or it changes nothing. -/
theorem messages_step (h : p.messages = fs.map Making.message) (s : MessageStep σ) :
    (p.step s).1.messages = ((making? fs s).elim fs fs.push).map Making.message := by
  have hget (i : Nat) : p.messages[i]? = fs[i]?.map Making.message := by
    rw [h, Array.getElem?_map]
  -- a message that is put into the pool, next to its making
  have hpush (f : Making σ) : (p.add f.message).1.messages = (fs.push f).map Making.message := by
    rw [Array.map_push, ← h]
    rfl
  cases s with
  | bare position unexpected => exact hpush (.bare position unexpected)
  | on input offset label =>
    simp only [step, making?, messageOn]
    cases (Cursor.start 0 input).advanceBy offset with
    | error e => exact h
    | ok c =>
      cases label with
      | none => exact hpush (.on c)
      | some label => exact hpush (.expecting c label)
  | withExpected i label =>
    simp only [step, making?, hget]
    cases fs[i]? with
    | none => exact h
    | some f => exact hpush (f.withExpected label)
  | relabel i label =>
    simp only [step, making?, hget]
    cases fs[i]? with
    | none => exact h
    | some f => exact hpush (f.relabel label)
  | merge i j =>
    simp only [step, making?, hget]
    cases fs[i]? with
    | none => exact h
    | some f =>
      cases fs[j]? with
      | none => exact h
      | some g => exact hpush (f.merge g)
  | ask query i =>
    simp only [step, making?]
    cases p.messages[i]? with
    | none => exact h
    | some m => exact h
  | same i j =>
    simp only [step, making?]
    split
    · exact h
    · exact h

/-- Every message of a pool is what comes of its making. -/
theorem messages_after (h : p.messages = fs.map Making.message) (steps : List (MessageStep σ)) :
    (p.after steps).messages = (makings fs steps).map Making.message := by
  induction steps generalizing p fs with
  | nil => exact h
  | cons s steps ih => exact ih (messages_step h s)

end MessagePool

/-! ## What is told -/

namespace Message

variable {σ : Type} [Symbol σ] [DecidableEq σ]

/-- The messages of a pool come of their makings. The labels of a message are a list in increasing
order by code point that has the labels of its making, and its text names each of them once and in
this order. So messages at one place, with one symbol, have the same text if their makings have the
same labels in the end, in whatever order these were added, how often and in which messages. -/
theorem wording_laws :
    (∀ steps : List (MessageStep σ),
      (MessagePool.after {} steps).messages =
        (MessagePool.makings #[] steps).map Making.message) ∧
    ∀ f : Making σ,
      (f.message.expected.toList.Pairwise fun a b => a.toList < b.toList) ∧
      (∀ a, a ∈ f.message.expected.toList ↔ a ∈ f.labels) ∧
      (f.labels = ∅ → f.message.expected.render = "nothing") ∧
      (f.labels ≠ ∅ → f.message.expected.render =
        String.join (f.message.expected.toList.mapIdx fun i a =>
          Labels.separator f.message.expected.toList.length i ++ ("`" ++ a ++ "`"))) ∧
      ∀ g : Making σ, f.message.position = g.message.position →
        f.message.unexpected = g.message.unexpected → f.labels = g.labels →
        f.message.render = g.message.render := by
  refine ⟨MessagePool.messages_after Array.map_empty.symm, fun f => ⟨f.message.expected.sorted,
    fun _ => f.mem_expected_message, fun hempty => ?_, fun hne => ?_,
    fun g => Making.render_congr⟩⟩
  · rw [Labels.render, f.toList_expected_eq_nil_iff.2 hempty]
  · exact Labels.render_eq_join (mt f.toList_expected_eq_nil_iff.1 hne)

/-- Three labels, added in turn and one of them twice. -/
def labelsInTurn : Making Char :=
  ((((Making.bare 1 (some 'x')).withExpected "digit").withExpected "comma").withExpected
    "sign").withExpected "digit"

/-- The cursor behind the sign of `-x`. -/
def behindSign : Cursor Char := ⟨⟨0, #['-', 'x']⟩, 1, ['x'], rfl, by decide⟩

/-- The same labels, in messages that are merged with others. -/
def labelsInGroups : Making Char :=
  (((Making.on behindSign).withExpected "end").relabel "sign").merge
    (((Making.bare 0 none).withExpected "quote").merge
      ((Making.expecting behindSign "comma").withExpected "digit"))

/-- The labels of both are told in one way. -/
theorem wording_laws_of_three :
    labelsInTurn.message.render = labelsInGroups.message.render ∧
    labelsInTurn.message.expected.render = "`comma`, `digit`, or `sign`" := by
  have hlabels : labelsInTurn.labels = labelsInGroups.labels := by
    ext a
    simp only [labelsInTurn, labelsInGroups, behindSign, Making.labels, Making.position]
    grind
  obtain ⟨-, hall⟩ := wording_laws (σ := Char)
  obtain ⟨-, -, -, htext, hsame⟩ := hall labelsInTurn
  have hne : labelsInTurn.labels ≠ ∅ := (Set.insert_nonempty _ _).ne_empty
  exact ⟨hsame labelsInGroups (by decide) (by decide) hlabels, (htext hne).trans (by decide)⟩

end Message

end ParserKit
