import Mathlib.Order.WellFoundedSet
import ParserKit.Proofs.Slots.References
import ParserKit.Slots.Basic

/-!
# Which slots are kept

A slot is kept if somebody holds it, or if the definition of a slot that is kept owns it. Dropping
goes the other way round: it begins with the slots that are there and takes away, round after round,
those that nobody holds and no remaining one owns. With as many rounds as there are slots nothing
more can be taken away, for each round but the last takes away a slot at least.

What remains holds up by itself, so slots that own each other in a circle would remain as well. If
none own each other in a circle, what remains is what is kept: to follow the owners of a slot back
comes to an end, and it ends at one that is held.

## Main definitions

* `SlotRef.Below n`: weak and owning references to the first `n` slots
* `Slots.Owns s j i`: the definition of `j` owns `i`
* `Slots.Kept s held i`: `i` is held, or owned by a slot that is kept

## Main results

* `Slots.supported_supportedAfter`: nothing more is taken away
* `Slots.isAlive_sweep_iff`: what remains is what is kept
* `Slots.sweep_sweep`: to sweep twice is to sweep once
-/

namespace ParserKit

variable {k : Kind}

/-- A weak or owning reference to one of the first `n` slots. -/
def SlotRef.Below (n : Nat) : SlotRef → Prop
  | .weak i => i < n
  | .owning i => i < n
  | .inline _ => False

theorem SlotRef.Below.mono {n m : Nat} {r : SlotRef} (h : r.Below n) (hnm : n ≤ m) : r.Below m := by
  cases r with
  | weak i => exact Nat.lt_of_lt_of_le h hnm
  | owning i => exact Nat.lt_of_lt_of_le h hnm
  | inline i => exact h

namespace Slots

variable {s : Slots k} {held : List Nat} {i j n : Nat} {p : Blueprint SlotRef k}

/-! ## Owners -/

/-- The definition of the slot `j` has an owning reference to the slot `i`. -/
def Owns (s : Slots k) (j i : Nat) : Prop := ∃ p, s.definition? j = some p ∧ .owning i ∈ p.refs

/-- The slot is held, or it is owned by a slot that is kept. -/
def Kept (s : Slots k) (held : Nat → Prop) (i : Nat) : Prop :=
  ∃ j, held j ∧ Relation.ReflTransGen s.Owns j i

theorem Kept.of_held {held : Nat → Prop} (h : held i) : s.Kept held i := ⟨i, h, .refl⟩

theorem Kept.owns {held : Nat → Prop} (h : s.Kept held j) (hji : s.Owns j i) : s.Kept held i := by
  obtain ⟨l, hl, hlj⟩ := h
  exact ⟨l, hl, hlj.tail hji⟩

theorem Kept.mono {held held' : Nat → Prop} (h : s.Kept held i) (hheld : ∀ i, held i → held' i) :
    s.Kept held' i := by
  obtain ⟨j, hj, hji⟩ := h
  exact ⟨j, hheld j hj, hji⟩

/-- A slot is kept because it is held, or because a kept slot owns it. -/
theorem Kept.held_or_owned {held : Nat → Prop} (h : s.Kept held i) :
    held i ∨ ∃ j, s.Kept held j ∧ s.Owns j i := by
  obtain ⟨j, hj, hji⟩ := h
  rcases hji.cases_tail with rfl | ⟨l, hjl, hli⟩
  · exact .inl hj
  · exact .inr ⟨l, ⟨j, hj, hjl⟩, hli⟩

/-- What holds of the slots that are held, and of those that they own in turn, holds of all that are
kept. -/
theorem Kept.induction {held : Nat → Prop} {Q : Nat → Prop} (h : s.Kept held i)
    (hheld : ∀ i, held i → Q i) (howns : ∀ j i, Q j → s.Owns j i → Q i) : Q i := by
  obtain ⟨j, hj, hji⟩ := h
  induction hji with
  | refl => exact hheld j hj
  | tail _ hji ih => exact howns _ _ ih hji

/-- Where nothing is put in place a list of references puts nothing in place. -/
theorem inlined_eq_nil {refs : List SlotRef} (h : ∀ r ∈ refs, r.Below n) (depth : Nat) :
    s.inlined depth refs = [] := by
  induction depth generalizing refs with
  | zero => rfl
  | succ depth ih =>
    simp only [inlined]
    rw [List.filterMap_eq_nil_iff.2]
    · exact ih nofun
    · intro r hr
      cases r with
      | weak i => rfl
      | owning i => rfl
      | inline i => exact (h _ hr).elim

/-- A blueprint keeps the slots that it owns. -/
theorem mem_keptBy (hp : ∀ r ∈ p.refs, r.Below n) : i ∈ s.keptBy p ↔ .owning i ∈ p.refs := by
  simp only [keptBy, inlined_eq_nil hp, List.eraseDups_nil, List.flatMap_nil, List.append_nil,
    List.mem_filterMap]
  constructor
  · rintro ⟨r, hr, h⟩
    cases r with
    | owning j =>
      cases h
      exact hr
    | weak j => cases h
    | inline j => cases h
  · intro h
    exact ⟨_, h, rfl⟩

/-! ## Rounds -/

theorem supported_sublist (s : Slots k) (held alive : List Nat) :
    (s.supported held alive).Sublist alive :=
  List.filter_sublist

/-- Once a round takes nothing away, no later one does. -/
theorem supportedAfter_of_eq {alive : List Nat} (h : s.supported held alive = alive)
    (rounds : Nat) : s.supportedAfter held rounds alive = alive := by
  induction rounds with
  | zero => rfl
  | succ rounds ih => rw [supportedAfter, h, ih]

/-- With as many rounds as there are slots nothing more can be taken away. -/
theorem supported_supportedAfter {alive : List Nat} {rounds : Nat} (h : alive.length ≤ rounds) :
    s.supported held (s.supportedAfter held rounds alive) =
      s.supportedAfter held rounds alive := by
  induction rounds generalizing alive with
  | zero =>
    obtain rfl := List.eq_nil_of_length_eq_zero (Nat.le_zero.1 h)
    rfl
  | succ rounds ih =>
    have hsub := s.supported_sublist held alive
    -- a round takes something away, or no round does
    rcases Nat.lt_or_ge (s.supported held alive).length alive.length with hlt | hge
    · exact ih (by omega)
    · have heq := hsub.eq_of_length_le hge
      rw [supportedAfter_of_eq heq, heq]

theorem supportedAfter_subset (s : Slots k) (held alive : List Nat) (rounds : Nat) :
    s.supportedAfter held rounds alive ⊆ alive := by
  induction rounds generalizing alive with
  | zero => exact List.Subset.refl _
  | succ rounds ih => exact List.Subset.trans (ih _) (s.supported_sublist held alive).subset

/-- The definitions refer to slots that have been made, and put none in place. -/
def Bounded (s : Slots k) : Prop :=
  ∀ i p, s.definition? i = some p → p.RefersTo (SlotRef.Below s.size)

theorem Bounded.mem_keptBy_iff (hs : s.Bounded) :
    i ∈ ((s.definition? j).map s.keptBy).getD [] ↔ s.Owns j i := by
  cases hp : s.definition? j with
  | none => simp [Owns, hp]
  | some p => simp [Owns, hp, mem_keptBy (hs j p hp)]

theorem Bounded.mem_supported_iff (hs : s.Bounded) {alive : List Nat} :
    i ∈ s.supported held alive ↔ i ∈ alive ∧ (i ∈ held ∨ ∃ j ∈ alive, s.Owns j i) := by
  simp only [supported, List.mem_filter, Bool.or_eq_true, List.contains_iff_mem,
    List.mem_flatMap, hs.mem_keptBy_iff]

/-! ## What remains -/

/-- The slots that remain when all rounds are done. -/
def remaining (s : Slots k) (held : List Nat) : List Nat :=
  s.supportedAfter held s.size ((List.range s.size).filter s.isAlive)

theorem lt_size_of_isAlive (h : s.isAlive i = true) : i < s.size := by
  by_contra hge
  have hnone : s.slots[i]? = none := Array.getElem?_eq_none (Nat.le_of_not_lt hge)
  simp [isAlive, hnone] at h

theorem lt_size_of_definition? (h : s.definition? i = some p) : i < s.size := by
  by_contra hge
  have hnone : s.slots[i]? = none := Array.getElem?_eq_none (Nat.le_of_not_lt hge)
  simp [definition?, hnone] at h

theorem mem_start_iff : i ∈ (List.range s.size).filter s.isAlive ↔ s.isAlive i = true := by
  simp only [List.mem_filter, List.mem_range, and_iff_right_iff_imp]
  exact lt_size_of_isAlive

theorem isAlive_of_mem_remaining (h : i ∈ s.remaining held) : s.isAlive i = true :=
  mem_start_iff.1 (s.supportedAfter_subset held _ _ h)

/-- What remains holds up by itself. -/
theorem supported_remaining (s : Slots k) (held : List Nat) :
    s.supported held (s.remaining held) = s.remaining held := by
  refine supported_supportedAfter ?_
  calc ((List.range s.size).filter s.isAlive).length
      ≤ (List.range s.size).length := List.length_filter_le _ _
    _ = s.size := List.length_range

/-- What remains is held, or owned by what remains. -/
theorem Bounded.held_or_owned (hs : s.Bounded) (h : i ∈ s.remaining held) :
    i ∈ held ∨ ∃ j ∈ s.remaining held, s.Owns j i := by
  rw [← s.supported_remaining held] at h
  exact (hs.mem_supported_iff.1 h).2

/-- What is there, and holds up by itself, remains. -/
theorem Bounded.mem_remaining (hs : s.Bounded) {S : Nat → Prop}
    (halive : ∀ i, S i → s.isAlive i = true)
    (hS : ∀ i, S i → i ∈ held ∨ ∃ j, S j ∧ s.Owns j i) (hi : S i) : i ∈ s.remaining held := by
  -- no round takes anything of `S` away while all of `S` is there
  have key (rounds : Nat) (alive : List Nat) (h : ∀ i, S i → i ∈ alive) :
      ∀ i, S i → i ∈ s.supportedAfter held rounds alive := by
    induction rounds generalizing alive with
    | zero => exact h
    | succ rounds ih =>
      refine ih _ fun i hi => hs.mem_supported_iff.2 ⟨h i hi, (hS i hi).imp_right ?_⟩
      rintro ⟨j, hj, hji⟩
      exact ⟨j, h j hj, hji⟩
  exact key _ _ (fun i hi => mem_start_iff.2 (halive i hi)) i hi

/-- If no slots own each other in a circle, what remains is kept by somebody who holds it. -/
theorem Bounded.kept_of_mem_remaining (hs : s.Bounded)
    (hacyclic : ∀ i, ¬ Relation.TransGen s.Owns i i) (h : i ∈ s.remaining held) :
    s.Kept (· ∈ held) i := by
  -- by induction on the owners, of which there are finitely many and no circles
  have horder : IsStrictOrder Nat (Relation.TransGen s.Owns) :=
    { irrefl := hacyclic, trans := fun _ _ _ h h' => h.trans h' }
  have hfin : {i | i ∈ s.remaining held}.Finite := List.finite_toSet _
  have hwf : {i | i ∈ s.remaining held}.WellFoundedOn (Relation.TransGen s.Owns) :=
    hfin.wellFoundedOn
  refine hwf.induction h fun i hi ih => ?_
  rcases hs.held_or_owned hi with hheld | ⟨j, hj, hji⟩
  · exact .of_held hheld
  · exact (ih j hj (.single hji)).owns hji

/-! ## Dropping -/

/-- A sweep changes which slots are there, and nothing else about them. -/
theorem sweep_eq (s : Slots k) (held : List Nat) :
    s.sweep held =
      ⟨s.slots.mapIdx fun i t => { t with alive := (s.remaining held).contains i }⟩ :=
  rfl

@[simp] theorem size_sweep (s : Slots k) (held : List Nat) : (s.sweep held).size = s.size := by
  simp [sweep, size]

@[simp] theorem definition?_sweep (s : Slots k) (held : List Nat) (i : Nat) :
    (s.sweep held).definition? i = s.definition? i := by
  simp only [definition?, sweep, Array.getElem?_mapIdx]
  cases s.slots[i]? <;> rfl

theorem isAlive_sweep : (s.sweep held).isAlive i = true ↔ i ∈ s.remaining held := by
  simp only [isAlive, sweep, Array.getElem?_mapIdx]
  cases hi : s.slots[i]? with
  | some t => simp [remaining]
  | none =>
    have hge : ¬ i < s.size := by simpa [size] using hi
    simp only [Option.map_none, Option.any_none, Bool.false_eq_true, false_iff]
    exact fun h => hge (lt_size_of_isAlive (isAlive_of_mem_remaining h))

@[simp] theorem owns_sweep (s : Slots k) (held : List Nat) : (s.sweep held).Owns = s.Owns := by
  funext j i
  simp only [Owns, definition?_sweep]

theorem Bounded.sweep (hs : s.Bounded) (held : List Nat) : (s.sweep held).Bounded := by
  intro i p hp
  rw [definition?_sweep] at hp
  rw [size_sweep]
  exact hs i p hp

@[simp] theorem keptBy_sweep (s : Slots k) (held : List Nat) (p : Blueprint SlotRef k) :
    (s.sweep held).keptBy p = s.keptBy p := by
  have hinlined (depth : Nat) (refs : List SlotRef) :
      (s.sweep held).inlined depth refs = s.inlined depth refs := by
    induction depth generalizing refs with
    | zero => rfl
    | succ depth ih => simp only [inlined, definition?_sweep, ih]
  simp only [keptBy, hinlined, definition?_sweep, size_sweep]

/-- If all slots that are kept are there, a sweep leaves them there. -/
theorem Bounded.isAlive_sweep_of_kept (hs : s.Bounded)
    (halive : ∀ i, s.Kept (· ∈ held) i → s.isAlive i = true) (h : s.Kept (· ∈ held) i) :
    (s.sweep held).isAlive i = true :=
  isAlive_sweep.2 (hs.mem_remaining halive (fun _ hi => hi.held_or_owned) h)

/-- It leaves no others, if no slots own each other in a circle. -/
theorem Bounded.isAlive_sweep_iff (hs : s.Bounded)
    (hacyclic : ∀ i, ¬ Relation.TransGen s.Owns i i)
    (halive : ∀ i, s.Kept (· ∈ held) i → s.isAlive i = true) :
    (s.sweep held).isAlive i = true ↔ s.Kept (· ∈ held) i :=
  ⟨fun h => hs.kept_of_mem_remaining hacyclic (isAlive_sweep.1 h),
    hs.isAlive_sweep_of_kept halive⟩

/-- What a sweep leaves, another sweep leaves. -/
theorem Bounded.sweep_sweep (hs : s.Bounded) (held : List Nat) :
    (s.sweep held).sweep held = s.sweep held := by
  have hmem (i : Nat) : i ∈ (s.sweep held).remaining held ↔ i ∈ s.remaining held := by
    refine ⟨fun h => isAlive_sweep.1 (isAlive_of_mem_remaining h), ?_⟩
    refine (hs.sweep held).mem_remaining (fun i hi => isAlive_sweep.2 hi) fun i hi => ?_
    rw [owns_sweep]
    exact hs.held_or_owned hi
  have hcontains (i : Nat) :
      ((s.sweep held).remaining held).contains i = (s.remaining held).contains i := by
    rw [Bool.eq_iff_iff, List.contains_iff_mem, List.contains_iff_mem]
    exact hmem i
  calc (s.sweep held).sweep held
      = ⟨(s.sweep held).slots.mapIdx fun i t =>
          { t with alive := (s.remaining held).contains i }⟩ := by
        rw [sweep_eq (s.sweep held)]
        simp only [hcontains]
    _ = s.sweep held := by
        rw [sweep_eq, Array.mapIdx_mapIdx]
        rfl

end Slots

end ParserKit
