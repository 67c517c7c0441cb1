import ParserKit.Proofs.Truthfulness

/-!
# Merging messages

The failures of several alternatives are told by one message. Messages are merged two at a time, and
the one that got further wins, so of many messages those at the greatest position remain: the
expected set is the union of theirs, and the symbol is that of the first of them.

Which of them is the first would not matter if they had the same symbol. Messages about one input
do, since it is the symbol of the input at their position, and so they may be merged in any order.
What comes of them depends on which messages there are, and not on their order, on how often one of
them occurs, or on how they are grouped.

## Main definitions

* `Message.MergedFrom m ms`: `m` tells of the messages `ms` those at the greatest position
* `Message.Grouping`: ways to merge messages two at a time

## Main results

* `Message.merge_assoc`, `Message.merge_self`: messages may be merged in groups, and repeated
* `Message.merge_comm`: truthful messages may be merged in any order
* `Message.on_merge`, `Message.merge_on`: a message that expects nothing, on the symbol where a run
  began, adds nothing
* `Message.mergedFrom_foldl`: what merging a list of messages gives
* `Message.MergedFrom.unique`: it is determined by the members of the list
* `Message.merge_laws`: merging does not depend on order, grouping and repetitions
-/

namespace ParserKit

variable {σ : Type} {s : Source σ} {c : Cursor σ}

/-! ## Unions of labels -/

namespace Labels

theorem union_assoc (s t u : Labels) : (s.union t).union u = s.union (t.union u) :=
  ext_mem fun a => by simp only [mem_union, or_assoc]

theorem union_comm (s t : Labels) : s.union t = t.union s :=
  ext_mem fun a => by simp only [mem_union, or_comm]

theorem union_self (s : Labels) : s.union s = s :=
  ext_mem fun a => by simp only [mem_union, or_self]

theorem not_mem_empty (a : String) : a ∉ (∅ : Labels) := List.not_mem_nil

theorem empty_union (s : Labels) : Labels.union ∅ s = s :=
  ext_mem fun a => by simp only [mem_union, not_mem_empty, false_or]

theorem union_empty (s : Labels) : s.union ∅ = s :=
  ext_mem fun a => by simp only [mem_union, not_mem_empty, or_false]

end Labels

namespace Message

variable {l m n : Message σ}

/-! ## Two messages -/

/-- Of two messages the one from further along is kept. -/
theorem merge_of_lt (h : m.position < n.position) : m.merge n = n := by
  simp only [merge, Nat.compare_eq_lt.2 h]

theorem merge_of_gt (h : n.position < m.position) : m.merge n = m := by
  simp only [merge, Nat.compare_eq_gt.2 h]

/-- At one place the expectations are joined. -/
theorem merge_of_eq (h : m.position = n.position) :
    m.merge n = { m with expected := m.expected.union n.expected } := by
  simp only [merge, Nat.compare_eq_eq.2 h]

/-- A message that is not further along adds its labels if it is at the same place. -/
theorem mem_expected_merge {name : String} (h : n.position ≤ m.position) :
    name ∈ (m.merge n).expected ↔
      name ∈ m.expected ∨ n.position = m.position ∧ name ∈ n.expected := by
  obtain hlt | heq := Nat.lt_or_eq_of_le h
  · simp [merge_of_gt hlt, Nat.ne_of_lt hlt]
  · simp [merge_of_eq heq.symm, Labels.mem_union, heq]

theorem merge_assoc (l m n : Message σ) : (l.merge m).merge n = l.merge (m.merge n) := by
  obtain hlm | hlm | hlm := Nat.lt_trichotomy l.position m.position
  · -- the first message is behind the second one, and behind what comes of it
    have hlt : l.position < (m.merge n).position := Nat.lt_of_lt_of_le hlm (le_position_merge m n)
    rw [merge_of_lt hlm, merge_of_lt hlt]
  · rw [merge_of_eq hlm]
    obtain hmn | hmn | hmn := Nat.lt_trichotomy m.position n.position
    · have hln : l.position < n.position := hlm ▸ hmn
      rw [merge_of_lt hmn, merge_of_lt hln]
      exact merge_of_lt hln
    · -- the labels of all three are pooled, in one order or the other
      have hleft := merge_of_eq (m := { l with expected := l.expected.union m.expected })
        (hlm.trans hmn)
      have hright := merge_of_eq (n := { m with expected := m.expected.union n.expected }) hlm
      rw [merge_of_eq hmn, hleft, hright, Labels.union_assoc]
    · rw [merge_of_gt hmn, merge_of_eq hlm]
      exact merge_of_gt (hlm ▸ hmn)
  · rw [merge_of_gt hlm]
    obtain hmn | hmn | hmn := Nat.lt_trichotomy m.position n.position
    · rw [merge_of_lt hmn]
    · have hright := merge_of_gt (n := { m with expected := m.expected.union n.expected }) hlm
      rw [merge_of_eq hmn, hright, merge_of_gt (n := n) (hmn ▸ hlm)]
    · rw [merge_of_gt hmn, merge_of_gt hlm, merge_of_gt (Nat.lt_trans hmn hlm)]

theorem merge_self (m : Message σ) : m.merge m = m := by
  rw [merge_of_eq rfl, Labels.union_self]

/-- Messages that tell the truth about one place tell the same symbol. -/
theorem TruthfulAbout.unexpected_eq (hm : m.TruthfulAbout s) (hn : n.TruthfulAbout s)
    (h : m.position = n.position) : m.unexpected = n.unexpected := by
  rw [hm.2, hn.2, h]

/-- Messages that do not differ in the symbol at one place may be merged in either order. -/
theorem merge_comm_of_unexpected (h : m.position = n.position → m.unexpected = n.unexpected) :
    m.merge n = n.merge m := by
  obtain hlt | heq | hgt := Nat.lt_trichotomy m.position n.position
  · rw [merge_of_lt hlt, merge_of_gt hlt]
  · rw [merge_of_eq heq, merge_of_eq heq.symm, h heq, heq, Labels.union_comm]
  · rw [merge_of_gt hgt, merge_of_lt hgt]

theorem merge_comm (hm : m.TruthfulAbout s) (hn : n.TruthfulAbout s) : m.merge n = n.merge m :=
  merge_comm_of_unexpected (hm.unexpected_eq hn)

/-! ## Messages where a run began -/

/-- The message about the place where a run began gives way to every message of the run. -/
theorem on_merge (hm : m.TruthfulAbout c.source) (hle : c.position ≤ m.position) :
    (on c).merge m = m := by
  obtain hlt | heq := Nat.lt_or_eq_of_le hle
  · exact merge_of_lt hlt
  · have hsymbol : (on c).unexpected = m.unexpected := (truthful_on c).unexpected_eq hm heq
    have hposition : (on c).position = m.position := heq
    rw [merge_of_eq heq, show (on c).expected = ∅ from rfl, Labels.empty_union, hsymbol, hposition]

theorem merge_on (hle : c.position ≤ m.position) : m.merge (on c) = m := by
  obtain hlt | heq := Nat.lt_or_eq_of_le hle
  · exact merge_of_gt hlt
  · rw [merge_of_eq heq.symm, show (on c).expected = ∅ from rfl, Labels.union_empty]

/-! ## Many messages -/

/-- The message is about the greatest position of all messages in the list. It has the symbol of the
first message there, and the labels of all messages there. -/
structure MergedFrom (m : Message σ) (ms : List (Message σ)) : Prop where
  position_le : ∀ n ∈ ms, n.position ≤ m.position
  first : ∃ before n after, ms = before ++ n :: after ∧ (∀ k ∈ before, k.position < m.position) ∧
    n.position = m.position ∧ n.unexpected = m.unexpected
  mem_expected : ∀ name, name ∈ m.expected ↔
    ∃ n ∈ ms, n.position = m.position ∧ name ∈ n.expected

theorem mergedFrom_singleton (m : Message σ) : m.MergedFrom [m] where
  position_le n hn := Nat.le_of_eq (congrArg position (List.mem_singleton.1 hn))
  first := ⟨[], m, [], rfl, nofun, rfl, rfl⟩
  mem_expected name := by simp

variable {ms ns : List (Message σ)}

/-- Messages in front that did not get as far do not count. -/
theorem MergedFrom.append_left (hn : n.MergedFrom ns) (hlt : ∀ j ∈ ms, j.position < n.position) :
    n.MergedFrom (ms ++ ns) := by
  obtain ⟨before, k, after, rfl, hbefore, hk⟩ := hn.first
  refine ⟨List.forall_mem_append.2 ⟨fun j hj => Nat.le_of_lt (hlt j hj), hn.position_le⟩,
    ⟨ms ++ before, k, after, by simp, List.forall_mem_append.2 ⟨hlt, hbefore⟩, hk⟩, fun name => ?_⟩
  have hnone : ¬ ∃ j ∈ ms, j.position = n.position ∧ name ∈ j.expected := by
    rintro ⟨j, hj, hposition, -⟩
    exact Nat.ne_of_lt (hlt j hj) hposition
  rw [hn.mem_expected]
  simp only [List.mem_append, or_and_right, exists_or, hnone, false_or]

/-- Messages behind that did not get further add their labels if they are at the same place. -/
theorem MergedFrom.append_of_le (hm : m.MergedFrom ms) (hn : n.MergedFrom ns)
    (hge : n.position ≤ m.position) : (m.merge n).MergedFrom (ms ++ ns) := by
  obtain ⟨before, k, after, rfl, hbefore, hk⟩ := hm.first
  obtain ⟨hposition, hsymbol⟩ : (m.merge n).position = m.position ∧
      (m.merge n).unexpected = m.unexpected :=
    (merge_cases m n).resolve_right fun h => absurd h.2 (Nat.not_lt.2 hge)
  refine ⟨?_, ⟨before, k, after ++ ns, by simp, ?_, ?_⟩, fun name => ?_⟩
  · rw [hposition]
    exact List.forall_mem_append.2
      ⟨hm.position_le, fun j hj => Nat.le_trans (hn.position_le j hj) hge⟩
  · rw [hposition]
    exact hbefore
  · rw [hposition, hsymbol]
    exact hk
  · -- a message at the place of the first ones puts the second place there as well
    have hsecond : n.position = m.position ∧ name ∈ n.expected ↔
        ∃ j ∈ ns, j.position = m.position ∧ name ∈ j.expected := by
      rw [hn.mem_expected]
      constructor
      · rintro ⟨heq, j, hj, hat, hname⟩
        exact ⟨j, hj, hat.trans heq, hname⟩
      · rintro ⟨j, hj, hat, hname⟩
        have heq : n.position = m.position := Nat.le_antisymm hge (hat ▸ hn.position_le j hj)
        exact ⟨heq, j, hj, hat.trans heq.symm, hname⟩
    rw [mem_expected_merge hge, hm.mem_expected, hsecond, hposition]
    simp only [List.mem_append, or_and_right, exists_or]

/-- What came of some messages is merged with what came of others. -/
theorem MergedFrom.append (hm : m.MergedFrom ms) (hn : n.MergedFrom ns) :
    (m.merge n).MergedFrom (ms ++ ns) := by
  obtain hlt | hge := Nat.lt_or_ge m.position n.position
  · rw [merge_of_lt hlt]
    exact hn.append_left fun j hj => Nat.lt_of_le_of_lt (hm.position_le j hj) hlt
  · exact hm.append_of_le hn hge

/-- Merging messages one after the other. -/
theorem MergedFrom.foldl {before : List (Message σ)} (h : m.MergedFrom before)
    (ms : List (Message σ)) : (ms.foldl Message.merge m).MergedFrom (before ++ ms) := by
  induction ms generalizing m before with
  | nil =>
    rw [List.append_nil]
    exact h
  | cons n ms ih =>
    rw [List.append_cons]
    exact ih (h.append (mergedFrom_singleton n))

theorem mergedFrom_foldl (m : Message σ) (ms : List (Message σ)) :
    (ms.foldl Message.merge m).MergedFrom (m :: ms) :=
  (mergedFrom_singleton m).foldl ms

/-! ## Order, grouping and repetitions -/

theorem MergedFrom.exists_mem (h : m.MergedFrom ms) :
    ∃ n ∈ ms, n.position = m.position ∧ n.unexpected = m.unexpected := by
  obtain ⟨before, n, after, rfl, -, hn⟩ := h.first
  exact ⟨n, by simp, hn⟩

/-- The symbol is that of the input, if the messages have the symbols of the input. -/
theorem MergedFrom.unexpected_eq (h : m.MergedFrom ms)
    (hms : ∀ n ∈ ms, n.unexpected = s.symbols[n.position]?) :
    m.unexpected = s.symbols[m.position]? := by
  obtain ⟨n, hn, hposition, hsymbol⟩ := h.exists_mem
  rw [← hsymbol, ← hposition]
  exact hms n hn

theorem MergedFrom.le_position (h : m.MergedFrom ms) (h' : n.MergedFrom ns)
    (hsub : ∀ k ∈ ms, k ∈ ns) : m.position ≤ n.position := by
  obtain ⟨k, hk, hposition, -⟩ := h.exists_mem
  exact hposition ▸ h'.position_le k (hsub k hk)

/-- What comes of messages about one input is determined by which messages there are. -/
theorem MergedFrom.unique (h : m.MergedFrom ms) (h' : n.MergedFrom ns)
    (hms : ∀ k ∈ ms, k.unexpected = s.symbols[k.position]?) (hmem : ∀ k, k ∈ ms ↔ k ∈ ns) :
    m = n := by
  have hposition : m.position = n.position :=
    Nat.le_antisymm (h.le_position h' fun k => (hmem k).1) (h'.le_position h fun k => (hmem k).2)
  have hsymbol : m.unexpected = n.unexpected := by
    rw [h.unexpected_eq hms, h'.unexpected_eq fun k hk => hms k ((hmem k).2 hk), hposition]
  have hexpected : m.expected = n.expected := Labels.ext_mem fun name => by
    simp only [h.mem_expected, h'.mem_expected, hposition, hmem]
  cases m
  cases n
  simp only [mk.injEq]
  exact ⟨hposition, hsymbol, hexpected⟩

/-- A way to merge messages two at a time. -/
inductive Grouping (σ : Type) where
  /-- A message by itself. -/
  | single (m : Message σ)
  /-- What comes of two groups is merged. -/
  | pair (first second : Grouping σ)

namespace Grouping

/-- The messages that are merged, in order, each as often as it occurs. -/
def messages : Grouping σ → List (Message σ)
  | single m => [m]
  | pair first second => first.messages ++ second.messages

/-- What comes of the messages. -/
def merged : Grouping σ → Message σ
  | single m => m
  | pair first second => first.merged.merge second.merged

theorem mergedFrom_messages (g : Grouping σ) : g.merged.MergedFrom g.messages := by
  induction g with
  | single m => exact mergedFrom_singleton m
  | pair first second hfirst hsecond => exact hfirst.append hsecond

end Grouping

/-- Merging is associative and idempotent, and commutative for messages with the symbols of one
input. So there is one message that comes of such messages, in whatever order they are merged, in
whatever groups and with whatever repetitions: it is about the greatest position, has the symbol of
the input there, and exactly the labels of the messages there. -/
theorem merge_laws (s : Source σ) :
    (∀ l m n : Message σ, (l.merge m).merge n = l.merge (m.merge n)) ∧
    (∀ m : Message σ, m.merge m = m) ∧
    (∀ m n : Message σ, m.unexpected = s.symbols[m.position]? →
      n.unexpected = s.symbols[n.position]? → m.merge n = n.merge m) ∧
    ∀ ms : List (Message σ), ms ≠ [] → (∀ m ∈ ms, m.unexpected = s.symbols[m.position]?) →
      ∃ k : Message σ, (∀ m ∈ ms, m.position ≤ k.position) ∧ (∃ m ∈ ms, m.position = k.position) ∧
        k.unexpected = s.symbols[k.position]? ∧
        (∀ name, name ∈ k.expected ↔
          ∃ m ∈ ms, m.position = k.position ∧ name ∈ m.expected) ∧
        ∀ g : Grouping σ, (∀ m, m ∈ g.messages ↔ m ∈ ms) → g.merged = k := by
  refine ⟨merge_assoc, merge_self, fun m n hm hn => ?_, fun ms hne hms => ?_⟩
  · exact merge_comm_of_unexpected fun h => by rw [hm, hn, h]
  · obtain ⟨m, rest, rfl⟩ := List.exists_cons_of_ne_nil hne
    have hmerged := mergedFrom_foldl m rest
    obtain ⟨n, hn, hposition, -⟩ := hmerged.exists_mem
    refine ⟨_, hmerged.position_le, ⟨n, hn, hposition⟩, hmerged.unexpected_eq hms,
      hmerged.mem_expected, fun g hg => ?_⟩
    exact g.mergedFrom_messages.unique hmerged (fun k hk => hms k ((hg k).1 hk)) hg

/-- Three failures on the input `ab`. -/
def failuresOnWord : List (Message Char) :=
  [⟨0, some 'a', .singleton "sign"⟩, ⟨1, some 'b', .singleton "digit"⟩,
    ⟨1, some 'b', .singleton "comma"⟩]

/-- The failures in another order and in groups, one of them twice. -/
def regrouped : Grouping Char :=
  .pair
    (.pair (.single ⟨1, some 'b', .singleton "comma"⟩)
      (.single ⟨0, some 'a', .singleton "sign"⟩))
    (.pair (.single ⟨1, some 'b', .singleton "digit"⟩)
      (.single ⟨1, some 'b', .singleton "comma"⟩))

/-- The failures that got further are told together, each label once. -/
theorem merge_laws_of_failuresOnWord :
    (∃ m ∈ failuresOnWord, m.position = regrouped.merged.position) ∧
    regrouped.merged.unexpected = #['a', 'b'][regrouped.merged.position]? ∧
    ∀ g : Grouping Char, (∀ m, m ∈ g.messages ↔ m ∈ failuresOnWord) →
      g.merged = ⟨1, some 'b', ⟨["comma", "digit"], by decide⟩⟩ := by
  obtain ⟨-, -, -, hall⟩ := merge_laws (⟨0, #['a', 'b']⟩ : Source Char)
  have hsub : ∀ m ∈ regrouped.messages, m ∈ failuresOnWord := by decide
  have hsub' : ∀ m ∈ failuresOnWord, m ∈ regrouped.messages := by decide
  obtain ⟨k, -, hmem, hsymbol, -, hmerged⟩ := hall failuresOnWord (by decide) (by decide)
  have hk := hmerged regrouped fun m => ⟨hsub m, hsub' m⟩
  rw [hk]
  exact ⟨hmem, hsymbol, fun g hg => (hmerged g hg).trans (hk.symm.trans (by decide))⟩

end Message

end ParserKit
