import Mathlib.Logic.Function.Basic
import ParserKit.Proofs.Slots.Sweeping
import ParserKit.Session.References

/-!
# What a registry keeps

The slots of a registry are reached through its handles and its parsers, and these hold them. Names
are told apart, so a handle or a parser that is put under a name takes the place of the one before,
and one that is taken away is gone. A step makes something, lets go of something or defines a slot,
and then drops the slots that are no longer kept. A step never keeps what was not kept before, but
for a slot that it makes: what it puts together has the references of parsers that are there. So all
slots that are kept are there, after each step, and after a sweep no others are.

## Main definitions

* `NamedOnce`: entries with different names
* `Registry.Holds`, `Registry.Keeps`: the slots that are held from outside, and those that are kept
* `Registry.Sound`: references are to slots that have been made, and slots that are kept are there
* `Registry.after`: the registry after a number of steps

## Main results

* `lookup_setName`, `lookup_eraseName`: entries by name, after one was put in or taken away
* `Registry.Sound.act`, `Registry.Sound.sweep`: a step leaves a registry sound
* `Registry.sound_after`, `Registry.sweep_after`: so do any number, and nothing is left to drop
* `Registry.Sound.isAlive_iff`: then the slots that are there are those that are kept
-/

namespace ParserKit

variable {k : Kind}

/-! ## Making and defining slots -/

namespace Slots

variable {s s' : Slots k} {i slot : Nat} {p : Blueprint SlotRef k}

@[simp] theorem size_make (s : Slots k) : s.make.2.size = s.size + 1 := by
  simp [make, size]

@[simp] theorem definition?_make (s : Slots k) (i : Nat) :
    s.make.2.definition? i = s.definition? i := by
  simp only [definition?, make, Array.getElem?_push]
  split
  · next h => simp [h]
  · rfl

theorem isAlive_make (s : Slots k) (i : Nat) :
    s.make.2.isAlive i = (s.isAlive i || decide (i = s.size)) := by
  simp only [isAlive, make, Array.getElem?_push, size]
  split
  · next h => simp [h]
  · next h => simp [h]

theorem Bounded.make (hs : s.Bounded) : s.make.2.Bounded := by
  intro i p hp
  rw [definition?_make] at hp
  rw [size_make]
  exact (hs i p hp).mono fun r hr => hr.mono (Nat.le_succ _)

/-- A slot without a definition can be defined. -/
theorem exists_assign (h : s.definition? slot = none) (p : Blueprint SlotRef k) :
    ∃ s', s.assign slot p = .ok s' := by
  unfold assign isSet
  rw [h]
  exact ⟨_, rfl⟩

/-- Any other cannot. -/
theorem assign_of_ne_none (h : s.definition? slot ≠ none) (p : Blueprint SlotRef k) :
    s.assign slot p = .error .assignedTwice := by
  unfold assign isSet
  rw [Option.isSome_iff_ne_none.2 h, if_pos rfl]

/-- A definition is taken up only by a slot without one. -/
theorem eq_of_assign (h : s.assign slot p = .ok s') :
    s.definition? slot = none ∧
      s' = ⟨s.slots.modify slot fun t => { t with definition := some p }⟩ := by
  unfold assign isSet at h
  cases hp : s.definition? slot with
  | none =>
    simp only [hp, Option.isSome_none, Bool.false_eq_true, if_false, Except.ok.injEq] at h
    exact ⟨rfl, h.symm⟩
  | some q => simp [hp] at h

section Assign

variable (h : s.assign slot p = .ok s')

include h

theorem size_assign : s'.size = s.size := by
  obtain ⟨-, rfl⟩ := eq_of_assign h
  simp [size]

theorem isAlive_assign (i : Nat) : s'.isAlive i = s.isAlive i := by
  obtain ⟨-, rfl⟩ := eq_of_assign h
  simp only [isAlive, Array.getElem?_modify]
  split
  · cases s.slots[i]? <;> rfl
  · rfl

/-- A definition that is given to a slot is that of the slot, if there is none yet. -/
theorem definition?_assign (hslot : slot < s.size) (i : Nat) :
    s'.definition? i = (s.definition? i).or (if slot = i then some p else none) := by
  obtain ⟨hnone, rfl⟩ := eq_of_assign h
  by_cases hi : slot = i
  · subst hi
    have hget : s.slots[slot]? = some s.slots[slot] := Array.getElem?_eq_getElem hslot
    rw [hnone]
    simp [definition?, Array.getElem?_modify, hget]
  · simp [definition?, Array.getElem?_modify, hi]

end Assign

end Slots

/-! ## Entries with names -/

section Entries

variable {α : Type} {name : String} {a : α} {e : String × α} {entries : List (String × α)}

/-- No two entries have one name. -/
def NamedOnce (entries : List (String × α)) : Prop := entries.Pairwise fun e f => e.1 ≠ f.1

theorem NamedOnce.eraseName (h : NamedOnce entries) (name : String) :
    NamedOnce (eraseName name entries) :=
  h.filter _

theorem NamedOnce.setName (h : NamedOnce entries) (name : String) (a : α) :
    NamedOnce (setName name a entries) := by
  refine List.pairwise_cons.2 ⟨fun e he => ?_, h.eraseName name⟩
  exact (bne_iff_ne.1 (List.mem_filter.1 he).2).symm

theorem mem_of_lookup (h : entries.lookup name = some a) : (name, a) ∈ entries := by
  obtain ⟨before, behind, rfl, -⟩ := List.lookup_eq_some_iff.1 h
  exact List.mem_append_right _ List.mem_cons_self

/-- Entries with different names are found by their names. -/
theorem NamedOnce.lookup_eq_some_iff (h : NamedOnce entries) :
    entries.lookup name = some a ↔ (name, a) ∈ entries := by
  refine ⟨mem_of_lookup, fun hmem => ?_⟩
  obtain ⟨before, behind, rfl⟩ := List.append_of_mem hmem
  obtain ⟨-, -, hbefore⟩ := List.pairwise_append.1 h
  refine List.lookup_eq_some_iff.2 ⟨before, behind, rfl, fun e he => ?_⟩
  exact bne_iff_ne.2 (hbefore e he _ List.mem_cons_self).symm

/-- What is taken away is not found, and all else is. -/
theorem lookup_eraseName (name : String) (entries : List (String × α)) (n : String) :
    (eraseName name entries).lookup n =
      Function.update (fun n => entries.lookup n) name none n := by
  induction entries with
  | nil =>
    rw [Function.update_apply]
    split <;> rfl
  | cons e entries ih =>
    obtain ⟨m, b⟩ := e
    rw [Function.update_apply] at ih ⊢
    by_cases hm : m = name
    · -- the entry is left out, and another name is not that of the entry
      subst hm
      have herase : eraseName m ((m, b) :: entries) = eraseName m entries := by simp [eraseName]
      rw [herase, ih]
      split
      · rfl
      · next hn => rw [List.lookup_cons, beq_false_of_ne hn]
    · have herase : eraseName name ((m, b) :: entries) = (m, b) :: eraseName name entries := by
        simp [eraseName, hm]
      rw [herase, List.lookup_cons, List.lookup_cons, ih]
      split
      · next hn =>
        rw [if_neg fun h => hm ((beq_iff_eq.1 hn).symm.trans h)]
      · rfl

/-- What is put in is found under its name, and all else is as before. -/
theorem lookup_setName (name : String) (a : α) (entries : List (String × α)) (n : String) :
    (setName name a entries).lookup n =
      Function.update (fun n => entries.lookup n) name (some a) n := by
  by_cases hn : n = name
  · subst hn
    rw [setName, List.lookup_cons_self, Function.update_self]
  · rw [setName, List.lookup_cons, beq_false_of_ne hn, lookup_eraseName,
      Function.update_of_ne hn, Function.update_of_ne hn]

/-- What is true of all entries and of one more is true of all when it is put in. -/
theorem forall_lookup_setName {P : α → Prop} (ha : P a)
    (h : ∀ n b, entries.lookup n = some b → P b) (name n : String) (b : α)
    (hb : (setName name a entries).lookup n = some b) : P b := by
  rw [lookup_setName, Function.update_apply] at hb
  split at hb
  · exact Option.some.inj hb ▸ ha
  · exact h n b hb

/-- What is true of all entries is true of those that are left. -/
theorem forall_lookup_eraseName {P : α → Prop} (h : ∀ n b, entries.lookup n = some b → P b)
    (name n : String) (b : α) (hb : (eraseName name entries).lookup n = some b) : P b := by
  rw [lookup_eraseName, Function.update_apply] at hb
  split at hb
  · cases hb
  · exact h n b hb

end Entries

namespace Registry

variable {g : Registry k} {i : Nat}

/-! ## What is held -/

/-- There is a handle of the slot, or a parser with an owning reference to it. -/
def Holds (g : Registry k) (i : Nat) : Prop :=
  (∃ name, g.handle? name = some i) ∨ ∃ name p, g.parser? name = some p ∧ .owning i ∈ p.refs

/-- The slot is held from outside, or owned by the definition of a slot that is kept. -/
def Keeps (g : Registry k) (i : Nat) : Prop := g.slots.Kept g.Holds i

/-- A parser with owning references to slots that are held only, and to none that has not been
made. -/
def Fits (g : Registry k) (p : Blueprint SlotRef k) : Prop :=
  p.RefersTo (SlotRef.Below g.slots.size) ∧ ∀ i, .owning i ∈ p.refs → g.Holds i

/-- Names are told apart, references are to slots that have been made, and slots that are kept are
there. -/
structure Sound (g : Registry k) : Prop where
  /-- No two handles have one name. -/
  handles_once : NamedOnce g.handles
  /-- No two parsers have one name. -/
  parsers_once : NamedOnce g.parsers
  /-- Parsers refer to slots that have been made. -/
  parsers : ∀ name p, g.parser? name = some p → p.RefersTo (SlotRef.Below g.slots.size)
  /-- So do the definitions of slots. -/
  bounded : g.slots.Bounded
  /-- Slots that are kept are there. -/
  alive : ∀ i, g.Keeps i → g.slots.isAlive i = true

theorem holds_of_handle {name : String} (h : g.handle? name = some i) : g.Holds i :=
  .inl ⟨name, h⟩

theorem holds_of_named {name : String} {p : Blueprint SlotRef k} (h : g.parser? name = some p)
    (hi : .owning i ∈ p.refs) : g.Holds i :=
  .inr ⟨name, p, h, hi⟩

theorem sound_empty : ({} : Registry k).Sound where
  handles_once := .nil
  parsers_once := .nil
  parsers := nofun
  bounded := by
    intro i p hp
    simp [Slots.definition?] at hp
  alive i h := by
    refine h.induction (Q := fun i => ({} : Slots k).isAlive i = true) (fun i hi => ?_)
      fun j i _ hji => ?_
    · rcases hi with ⟨_, h⟩ | ⟨_, _, h, -⟩ <;> cases h
    · obtain ⟨p, hp, -⟩ := hji
      simp [Slots.definition?] at hp

namespace Sound

variable {name : String}

theorem lt_size_of_holds (hg : g.Sound) (h : g.Holds i) : i < g.slots.size :=
  Slots.lt_size_of_isAlive (hg.alive i (.of_held h))

theorem fits (hg : g.Sound) {p : Blueprint SlotRef k} (h : g.parser? name = some p) : g.Fits p :=
  ⟨hg.parsers name p h, fun _ => holds_of_named h⟩

/-- What is held by the handles and the parsers is held by those that are found by their names. -/
theorem mem_held_iff (hg : g.Sound) : i ∈ g.held ↔ g.Holds i := by
  simp only [held, Holds, handle?, parser?, hg.handles_once.lookup_eq_some_iff,
    hg.parsers_once.lookup_eq_some_iff, List.mem_append, List.mem_map, List.mem_flatMap,
    Prod.exists, exists_eq_right]
  refine or_congr_right (exists_congr fun name => exists_congr fun p => ?_)
  refine and_congr_right fun hp => ?_
  have hbelow := hg.parsers name p (hg.parsers_once.lookup_eq_some_iff.2 hp)
  exact Slots.mem_keptBy hbelow

/-- What is held is read off the handles and the parsers. -/
theorem held_eq (hg : g.Sound) : (· ∈ g.held) = g.Holds :=
  funext fun _ => propext hg.mem_held_iff

/-! ## Steps -/

/-- With handles of slots that are held, and parsers that fit, nothing new is kept. -/
theorem of_holds {g' : Registry k} (hg : g.Sound) (hslots : g'.slots = g.slots)
    (hhandles_once : NamedOnce g'.handles) (hparsers_once : NamedOnce g'.parsers)
    (hhandles : ∀ name i, g'.handle? name = some i → g.Holds i)
    (hparsers : ∀ name p, g'.parser? name = some p → g.Fits p) : g'.Sound where
  handles_once := hhandles_once
  parsers_once := hparsers_once
  parsers name p hp := hslots ▸ (hparsers name p hp).1
  bounded := hslots ▸ hg.bounded
  alive i h := by
    -- with the same definitions it is what is held that decides what is kept
    have hholds (i : Nat) (h : g'.Holds i) : g.Holds i := by
      obtain ⟨name, h⟩ | ⟨name, p, h, hi⟩ := h
      · exact hhandles name i h
      · exact (hparsers name p h).2 i hi
    rw [Keeps, hslots] at h
    rw [hslots]
    exact hg.alive i (h.mono hholds)

/-- Another table of handles, all of slots that are held. -/
theorem with_handles (hg : g.Sound) {handles : List (String × Nat)} (honce : NamedOnce handles)
    (hholds : ∀ name i, handles.lookup name = some i → g.Holds i) :
    ({ g with handles } : Registry k).Sound :=
  hg.of_holds rfl honce hg.parsers_once hholds fun _ _ => hg.fits

/-- Another table of parsers, all of which fit. -/
theorem with_parsers (hg : g.Sound) {parsers : List (String × Blueprint SlotRef k)}
    (honce : NamedOnce parsers) (hfits : ∀ name p, parsers.lookup name = some p → g.Fits p) :
    ({ g with parsers } : Registry k).Sound :=
  hg.of_holds rfl hg.handles_once honce (fun _ _ h => holds_of_handle (g := g) h) hfits

/-- A new slot is there, and it owns nothing. -/
theorem make (hg : g.Sound) (name : String) :
    ({ g with
      slots := g.slots.make.2
      handles := setName name g.slots.size g.handles } : Registry k).Sound where
  handles_once := hg.handles_once.setName name _
  parsers_once := hg.parsers_once
  parsers n p hp := by
    rw [Slots.size_make]
    exact (hg.parsers n p hp).mono fun r hr => hr.mono (Nat.le_succ _)
  bounded := hg.bounded.make
  alive i h := by
    have hor : i = g.slots.size ∨ g.Keeps i := by
      refine h.induction (Q := fun i => i = g.slots.size ∨ g.Keeps i) (fun i hi => ?_)
        fun j i hj hji => ?_
      · obtain ⟨n, h⟩ | hparser := hi
        · exact forall_lookup_setName (P := fun i => i = g.slots.size ∨ g.Keeps i) (.inl rfl)
            (fun n i h => .inr (.of_held (holds_of_handle h))) name n i h
        · exact .inr (.of_held (.inr hparser))
      · obtain ⟨p, hp, hi⟩ := hji
        rw [Slots.definition?_make] at hp
        obtain rfl | hj := hj
        · -- there is no definition in the new slot
          exact absurd (Slots.lt_size_of_definition? hp) (Nat.lt_irrefl _)
        · exact .inr (hj.owns ⟨p, hp, hi⟩)
    rw [Slots.isAlive_make, Bool.or_eq_true, decide_eq_true_eq]
    exact hor.symm.imp_left (hg.alive i)

/-- What is put together from parsers that fit does so as well. -/
theorem fits_of_resolve (hg : g.Sound) {p : Blueprint String k} {q : Blueprint SlotRef k}
    (h : g.resolve? p = some q) : g.Fits q := by
  refine ⟨fun r hr => ?_, fun i hi => ?_⟩
  · obtain ⟨name, -, part, hpart, hr⟩ := (Blueprint.mem_refs_of_resolve h).1 hr
    exact hg.parsers name part hpart r hr
  · obtain ⟨name, -, part, hpart, hi⟩ := (Blueprint.mem_refs_of_resolve h).1 hi
    exact holds_of_named hpart hi

theorem fits_weak (hg : g.Sound) (h : g.handle? name = some i) : g.Fits (.ref (.weak i)) := by
  refine ⟨Blueprint.refersTo_ref (hg.lt_size_of_holds (holds_of_handle h)), fun j hj => ?_⟩
  cases List.mem_singleton.1 hj

theorem fits_owning (hg : g.Sound) (h : g.handle? name = some i) : g.Fits (.ref (.owning i)) := by
  refine ⟨Blueprint.refersTo_ref (hg.lt_size_of_holds (holds_of_handle h)), fun j hj => ?_⟩
  cases List.mem_singleton.1 hj
  exact holds_of_handle h

/-- A slot that is defined by something that fits owns nothing that was not kept. -/
theorem assign (hg : g.Sound) {slot : Nat} {q : Blueprint SlotRef k} {slots : Slots k}
    (hslot : slot < g.slots.size) (hq : g.Fits q) (h : g.slots.assign slot q = .ok slots) :
    ({ g with slots } : Registry k).Sound where
  handles_once := hg.handles_once
  parsers_once := hg.parsers_once
  parsers name p hp := by
    rw [Slots.size_assign h]
    exact hg.parsers name p hp
  bounded := by
    intro i p hp
    rw [Slots.size_assign h]
    rw [Slots.definition?_assign h hslot, Option.or_eq_some_iff] at hp
    rcases hp with hp | ⟨-, hp⟩
    · exact hg.bounded i p hp
    · split at hp
      · cases hp
        exact hq.1
      · cases hp
  alive i hi := by
    rw [Slots.isAlive_assign h]
    refine hg.alive i (hi.induction (fun i hi => .of_held hi) fun j i hj hji => ?_)
    obtain ⟨p, hp, hi⟩ := hji
    rw [Slots.definition?_assign h hslot, Option.or_eq_some_iff] at hp
    rcases hp with hp | ⟨-, hp⟩
    · exact hj.owns ⟨p, hp, hi⟩
    · -- the new definition owns what is held already
      split at hp
      · cases hp
        exact .of_held (hq.2 i hi)
      · cases hp

/-- What a step does before slots are dropped leaves a registry sound. -/
theorem act (hg : g.Sound) (step : SlotStep k) : (g.act step).1.Sound := by
  have hhandles (n : String) (i : Nat) (h : g.handle? n = some i) : g.Holds i := holds_of_handle h
  have hparsers (n : String) (p : Blueprint SlotRef k) (h : g.parser? n = some p) : g.Fits p :=
    hg.fits h
  cases step with
  | make handle => exact hg.make handle
  | copy handle new =>
    simp only [Registry.act]
    split
    · next slot hslot =>
      exact hg.with_handles (hg.handles_once.setName new slot)
        (forall_lookup_setName (holds_of_handle hslot) hhandles new)
    · exact hg
  | isSet handle =>
    simp only [Registry.act]
    split <;> exact hg
  | assign handle p =>
    simp only [Registry.act]
    split
    · next slot q hslot hq =>
      split
      · next slots h =>
        exact hg.assign (hg.lt_size_of_holds (holds_of_handle hslot)) (hg.fits_of_resolve hq) h
      · exact hg
    · exact hg
  | define name p =>
    simp only [Registry.act]
    split
    · next q hq =>
      exact hg.with_parsers (hg.parsers_once.setName name q)
        (forall_lookup_setName (hg.fits_of_resolve hq) hparsers name)
    · exact hg
  | weak handle name =>
    simp only [Registry.act]
    split
    · next slot hslot =>
      exact hg.with_parsers (hg.parsers_once.setName name _)
        (forall_lookup_setName (hg.fits_weak hslot) hparsers name)
    · exact hg
  | owning handle name =>
    simp only [Registry.act]
    split
    · next slot hslot =>
      exact hg.of_holds rfl (hg.handles_once.eraseName handle) (hg.parsers_once.setName name _)
        (forall_lookup_eraseName hhandles handle)
        (forall_lookup_setName (hg.fits_owning hslot) hparsers name)
    · exact hg
  | dropHandle handle =>
    simp only [Registry.act]
    split
    · exact hg.with_handles (hg.handles_once.eraseName handle)
        (forall_lookup_eraseName hhandles handle)
    · exact hg
  | dropParser name =>
    simp only [Registry.act]
    split
    · exact hg.with_parsers (hg.parsers_once.eraseName name)
        (forall_lookup_eraseName hparsers name)
    · exact hg
  | run name input =>
    have hinputs : ({ g with inputs := g.inputs + 1 } : Registry k).Sound :=
      hg.of_holds rfl hg.handles_once hg.parsers_once hhandles hparsers
    simp only [Registry.act]
    split
    · split <;> exact hinputs
    · exact hg

/-- Slots that are kept are not dropped. -/
theorem sweep (hg : g.Sound) : g.sweep.Sound where
  handles_once := hg.handles_once
  parsers_once := hg.parsers_once
  parsers name p hp := by
    simp only [Registry.sweep, Slots.size_sweep]
    exact hg.parsers name p hp
  bounded := hg.bounded.sweep g.held
  alive i hi := by
    have hkeeps : g.slots.Kept (· ∈ g.held) i := by
      rw [Keeps, Slots.Kept] at hi
      simp only [Registry.sweep, Slots.owns_sweep] at hi
      rw [hg.held_eq]
      exact hi
    refine hg.bounded.isAlive_sweep_of_kept ?_ hkeeps
    rw [hg.held_eq]
    exact hg.alive

theorem step (hg : g.Sound) (step : SlotStep k) : (g.step step).1.Sound := (hg.act step).sweep

/-- To drop slots twice is to drop them once. -/
theorem sweep_sweep (hg : g.Sound) : g.sweep.sweep = g.sweep := by
  have hheld : g.sweep.held = g.held := by
    simp only [held, Registry.sweep, Slots.keptBy_sweep]
  calc g.sweep.sweep
      = { g with slots := (g.slots.sweep g.held).sweep g.sweep.held } := rfl
    _ = g.sweep := by
        rw [hheld, hg.bounded.sweep_sweep]
        rfl

/-- If nothing is left to drop, and no slots own each other in a circle, the slots that are there
are those that are kept. -/
theorem isAlive_iff (hg : g.Sound) (hsweep : g.sweep = g)
    (hacyclic : ∀ i, ¬ Relation.TransGen g.slots.Owns i i) :
    g.slots.isAlive i = true ↔ g.Keeps i := by
  have hslots : g.slots.sweep g.held = g.slots := congrArg Registry.slots hsweep
  have hiff : (g.slots.sweep g.held).isAlive i = true ↔ g.slots.Kept (· ∈ g.held) i :=
    hg.bounded.isAlive_sweep_iff hacyclic (by rw [hg.held_eq]; exact hg.alive)
  rwa [hslots, hg.held_eq] at hiff

end Sound

/-! ## Any number of steps -/

/-- The registry after a number of steps. -/
def after (g : Registry k) (steps : List (SlotStep k)) : Registry k :=
  steps.foldl (fun g s => (g.step s).1) g

@[simp] theorem after_nil (g : Registry k) : g.after [] = g := rfl

@[simp] theorem after_cons (g : Registry k) (s : SlotStep k) (steps : List (SlotStep k)) :
    g.after (s :: steps) = (g.step s).1.after steps :=
  rfl

/-- A registry is sound after each step, and nothing is left to drop. -/
theorem Sound.after (hg : g.Sound) (hsweep : g.sweep = g) (steps : List (SlotStep k)) :
    (g.after steps).Sound ∧ (g.after steps).sweep = g.after steps := by
  induction steps generalizing g with
  | nil => exact ⟨hg, hsweep⟩
  | cons s steps ih => exact ih (hg.step s) (hg.act s).sweep_sweep

theorem sound_after (steps : List (SlotStep k)) : (after {} steps).Sound :=
  (sound_empty.after rfl steps).1

/-- Between two steps there is nothing left to drop. -/
theorem sweep_after (steps : List (SlotStep k)) : (after {} steps).sweep = after {} steps :=
  (sound_empty.after rfl steps).2

end Registry

end ParserKit
