import ParserKit.Proofs.Slots.Registry
import ParserKit.Proofs.Slots.Running

/-!
# The life of slots

What becomes of a slot is said by what has been offered to it, and by who keeps it. The first
definition that is offered is the one that the slot has from then on, by whatever handle it was
offered and whatever else is done; each later one is refused and changes nothing. The slot is
there as long as somebody keeps it, and a weak reference to it does what the definition does as
long as it is there.

It is kept by its handles, by the parsers that own it, and by the definitions of slots that are kept
themselves. Each step says what it leaves of the handles and the parsers: it puts one under a name
or takes one away, and all others are as before. So a slot is let go of when the last one is taken
away.

Slots that own each other in a circle are never dropped, so the last statement is one about slots
that do not.

## Main definitions

* `Registry.offers`: the definitions that are offered to a slot in a number of steps
* `Registry.Leaves`: what a step leaves of handles and parsers
* `Registry.Lacks`: a name that a step needs is not there
* `Registry.LifeCycle`: what handles and references do, step by step

## Main results

* `Registry.Sound.definition?_after`: the first definition that is offered is that of the slot
* `Registry.lifeCycle_after`: the life of slots after any number of steps
-/

namespace ParserKit

variable {k : Kind}

/-- The answer to a run that is seen to do this. -/
def SlotAnswer.ofSight : Exec (Sighting k.Carrier Value) → SlotAnswer k
  | .ok seen => .outcome seen
  | .error halt => .halted halt

namespace Registry

variable {g : Registry k} {i : Nat}

/-! ## Definitions that are offered -/

/-- The definition that a step offers to a slot, be it taken or not. -/
def offer (g : Registry k) (step : SlotStep k) (i : Nat) : Option (Blueprint SlotRef k) :=
  match step with
  | .assign handle p => if g.handle? handle = some i then g.resolve? p else none
  | _ => none

/-- The definitions that are offered to a slot in a number of steps, in order. -/
def offers (g : Registry k) : List (SlotStep k) → Nat → List (Blueprint SlotRef k)
  | [], _ => []
  | step :: steps, i => (g.offer step i).toList ++ (g.step step).1.offers steps i

section Assign

variable {handle : String} {slot : Nat} {p : Blueprint String k} {q : Blueprint SlotRef k}
  (hslot : g.handle? handle = some slot) (hq : g.resolve? p = some q)

include hslot hq

/-- The first definition is taken up. -/
theorem act_assign_of_unset (h : g.slots.definition? slot = none) :
    ∃ slots, g.slots.assign slot q = .ok slots ∧
      g.act (.assign handle p) = ({ g with slots }, .done) := by
  obtain ⟨slots, hslots⟩ := Slots.exists_assign h q
  refine ⟨slots, hslots, ?_⟩
  simp only [act, hslot, hq, hslots]

/-- A further definition is refused, and changes nothing. -/
theorem act_assign_of_set (h : g.slots.definition? slot ≠ none) :
    g.act (.assign handle p) = (g, .halted (.fault .assignedTwice)) := by
  simp only [act, hslot, hq, Slots.assign_of_ne_none h q]

end Assign

/-- A step defines a slot with what it offers, unless the slot is defined. -/
theorem Sound.definition?_act (hg : g.Sound) (step : SlotStep k) (i : Nat) :
    (g.act step).1.slots.definition? i = (g.slots.definition? i).or (g.offer step i) := by
  cases step with
  | make handle =>
    simp only [Registry.act, offer, Option.or_none]
    exact Slots.definition?_make g.slots i
  | assign handle p =>
    cases hslot : g.handle? handle with
    | none => simp [Registry.act, offer, hslot]
    | some slot =>
      cases hq : g.resolve? p with
      | none => simp [Registry.act, offer, hslot, hq]
      | some q =>
        have hoffer : g.offer (.assign handle p) i = if slot = i then some q else none := by
          simp only [offer, hslot, hq, Option.some.injEq]
        rw [hoffer]
        -- an offer to another slot is nothing to `i`, and one to a defined slot is refused
        by_cases hset : g.slots.definition? slot = none
        · obtain ⟨slots, h, hact⟩ := act_assign_of_unset hslot hq hset
          rw [hact]
          exact Slots.definition?_assign h (hg.lt_size_of_holds (holds_of_handle hslot)) i
        · rw [act_assign_of_set hslot hq hset]
          split
          · next hi =>
            subst hi
            obtain ⟨r, hr⟩ := Option.ne_none_iff_exists'.1 hset
            rw [hr, Option.some_or]
          · rw [Option.or_none]
  | copy | isSet | define | weak | owning | dropHandle | dropParser | run =>
    simp only [Registry.act, offer, Option.or_none]
    repeat' split
    all_goals rfl

/-- A step defines a slot only by an offer to it, and only if it had no definition. -/
theorem Sound.definition?_step (hg : g.Sound) (step : SlotStep k) (i : Nat) :
    (g.step step).1.slots.definition? i = (g.slots.definition? i).or (g.offer step i) := by
  rw [← hg.definition?_act]
  exact Slots.definition?_sweep _ _ i

/-- The first definition that is offered is that of the slot. -/
theorem Sound.definition?_after (hg : g.Sound) (steps : List (SlotStep k)) (i : Nat) :
    (g.after steps).slots.definition? i =
      (g.slots.definition? i).or (g.offers steps i).head? := by
  induction steps generalizing g with
  | nil => simp [offers]
  | cons step steps ih =>
    rw [after_cons, ih (hg.step step), hg.definition?_step, Option.or_assoc, offers]
    cases g.offer step i <;> simp

/-! ## The life of slots -/

/-- The step has this answer, and leaves this number of slots, these handles and these parsers. -/
structure Leaves (g : Registry k) (step : SlotStep k) (answer : SlotAnswer k) (size : Nat)
    (handles : String → Option Nat) (parsers : String → Option (Blueprint SlotRef k)) : Prop where
  /-- The answer. -/
  answer : (g.step step).2 = answer
  /-- The slots that have been made, whether they are there or not. -/
  size : (g.step step).1.slots.size = size
  /-- The slots of the handles. -/
  handles : (g.step step).1.handle? = handles
  /-- The parsers. -/
  parsers : (g.step step).1.parser? = parsers

/-- A name that the step needs is not there. -/
def Lacks (g : Registry k) : SlotStep k → Prop
  | .make _ => False
  | .copy handle _ | .isSet handle | .weak handle _ | .owning handle _ | .dropHandle handle =>
    g.handle? handle = none
  | .assign handle p => g.handle? handle = none ∨ g.resolve? p = none
  | .define _ p => g.resolve? p = none
  | .dropParser name | .run name _ => g.parser? name = none

/-- What slots do, where `offers i` are the definitions that have been offered to the slot `i`. -/
structure LifeCycle (g : Registry k) (offers : Nat → List (Blueprint SlotRef k)) : Prop where
  /-- A new handle is that of a new slot, to which nothing has been offered. -/
  make : ∀ handle, offers g.slots.size = [] ∧
    g.Leaves (.make handle) .done (g.slots.size + 1)
      (Function.update g.handle? handle (some g.slots.size)) g.parser?
  /-- The slots that are kept have been made. -/
  made : ∀ i, g.Keeps i → i < g.slots.size
  /-- Parsers refer to slots that have been made. -/
  refers : ∀ name p, g.parser? name = some p → p.RefersTo (SlotRef.Below g.slots.size)
  /-- A copy of a handle is a handle of the same slot. -/
  copy : ∀ handle new i, g.handle? handle = some i →
    g.Leaves (.copy handle new) .done g.slots.size (Function.update g.handle? new (some i))
      g.parser?
  /-- A parser can be put together from others if there is one for each name in it. -/
  resolves : ∀ p, g.resolve? p = none ↔ ∃ name ∈ p.refs, g.parser? name = none
  /-- It refers to what the parsers refer to that it is put together from. -/
  resolved : ∀ p q, g.resolve? p = some q → ∀ r,
    r ∈ q.refs ↔ ∃ name ∈ p.refs, ∃ part, g.parser? name = some part ∧ r ∈ part.refs
  /-- Then it is put under its name. -/
  define : ∀ name p q, g.resolve? p = some q →
    g.Leaves (.define name p) .done g.slots.size g.handle? (Function.update g.parser? name (some q))
  /-- By any of its handles a weak reference to a slot can be taken. -/
  take_weak : ∀ handle name i, g.handle? handle = some i →
    g.Leaves (.weak handle name) .done g.slots.size g.handle?
      (Function.update g.parser? name (some (.ref (.weak i))))
  /-- So can an owning one, which uses the handle up. -/
  take_owning : ∀ handle name i, g.handle? handle = some i →
    g.Leaves (.owning handle name) .done g.slots.size (Function.update g.handle? handle none)
      (Function.update g.parser? name (some (.ref (.owning i))))
  /-- A handle that is dropped is gone, and nothing else is. -/
  dropHandle : ∀ handle i, g.handle? handle = some i →
    g.Leaves (.dropHandle handle) .done g.slots.size (Function.update g.handle? handle none)
      g.parser?
  /-- So is a parser. -/
  dropParser : ∀ name p, g.parser? name = some p →
    g.Leaves (.dropParser name) .done g.slots.size g.handle?
      (Function.update g.parser? name none)
  /-- Without the names that it needs a step does nothing. -/
  missing : ∀ step, g.Lacks step → g.step step = (g, .missing)
  /-- The first definition that was offered is that of the slot. -/
  definition : ∀ i, g.slots.definition? i = (offers i).head?
  /-- The slots that are there are those that are kept. -/
  alive : ∀ i, g.slots.isAlive i = true ↔ g.Keeps i
  /-- The definition stays, whatever is done. -/
  stays : ∀ i p, (offers i).head? = some p → ∀ steps,
    (g.after steps).slots.definition? i = some p
  /-- By any of its handles a slot is defined if something has been offered. -/
  isSet : ∀ handle i, g.handle? handle = some i →
    g.step (.isSet handle) = (g, .flag !(offers i).isEmpty)
  /-- The first offer is taken, and defines no other slot. -/
  assign_first : ∀ handle i p q, g.handle? handle = some i → g.resolve? p = some q →
    offers i = [] → g.Leaves (.assign handle p) .done g.slots.size g.handle? g.parser? ∧ ∀ j,
      (g.step (.assign handle p)).1.slots.definition? j =
        if i = j then some q else g.slots.definition? j
  /-- Any other offer is a fault, and changes nothing. -/
  assign_again : ∀ handle i p q, g.handle? handle = some i → g.resolve? p = some q →
    offers i ≠ [] → g.step (.assign handle p) = (g, .halted (.fault .assignedTwice))
  /-- The answer to a run is what is seen of it, and a run changes no slots. -/
  run : ∀ name p input, g.parser? name = some p →
    g.step (.run name input) = ({ g with inputs := g.inputs + 1 },
      .ofSight ((g.slots.parser p).sight (.start g.inputs input)))
  /-- A weak reference finds its slot dropped if the slot is not kept. Else it is only the
  definition that can fault in this way. -/
  weak_dropped_iff : ∀ i c, (g.slots.parser (.ref (.weak i))).run c =
      Run.fault (.dropped c.position) ↔
    ¬ g.Keeps i ∨ g.Keeps i ∧ ∃ p, (offers i).head? = some p ∧
      (g.slots.parser p).run c = Run.fault (.dropped c.position)
  /-- If the slot is kept, a weak reference finds no definition if none has been offered. -/
  weak_unassigned_iff : ∀ i c, (g.slots.parser (.ref (.weak i))).run c =
      Run.fault (.unassigned c.position) ↔
    g.Keeps i ∧ (offers i = [] ∨ ∃ p, (offers i).head? = some p ∧
      (g.slots.parser p).run c = Run.fault (.unassigned c.position))
  /-- Else it is seen to do what the first definition does. -/
  weak : ∀ i p c, g.Keeps i → (offers i).head? = some p →
    (g.slots.parser (.ref (.weak i))).sight c = (g.slots.parser p).sight c
  /-- A parser with an owning reference keeps the slot. -/
  owning_keeps : ∀ name p i, g.parser? name = some p → .owning i ∈ p.refs → g.Keeps i
  /-- An owning reference never finds its slot dropped. It is only the definition that can fault in
  this way. -/
  owning_dropped_iff : ∀ i c, (g.slots.parser (.ref (.owning i))).run c =
      Run.fault (.dropped c.position) ↔
    ∃ p, (offers i).head? = some p ∧
      (g.slots.parser p).run c = Run.fault (.dropped c.position)
  /-- It finds no definition if none has been offered. -/
  owning_unassigned_iff : ∀ i c, (g.slots.parser (.ref (.owning i))).run c =
      Run.fault (.unassigned c.position) ↔
    offers i = [] ∨ ∃ p, (offers i).head? = some p ∧
      (g.slots.parser p).run c = Run.fault (.unassigned c.position)
  /-- Else it is seen to do what the first definition does. -/
  owning : ∀ i p c, (offers i).head? = some p →
    (g.slots.parser (.ref (.owning i))).sight c = (g.slots.parser p).sight c

section Steps

variable (hsweep : g.sweep = g)

include hsweep

/-- A step that changes no slots drops none. -/
theorem step_isSet {handle : String} (hslot : g.handle? handle = some i) :
    g.step (.isSet handle) = (g, .flag (g.slots.isSet i)) := by
  simp only [step, act, hslot, hsweep]

theorem step_assign_of_set {handle : String} {p : Blueprint String k} {q : Blueprint SlotRef k}
    (hslot : g.handle? handle = some i) (hq : g.resolve? p = some q)
    (h : g.slots.definition? i ≠ none) :
    g.step (.assign handle p) = (g, .halted (.fault .assignedTwice)) := by
  simp only [step, act_assign_of_set hslot hq h, hsweep]

/-- To run a parser changes no slot: only the next input has another number. -/
theorem step_run {name : String} {p : Blueprint SlotRef k} (hp : g.parser? name = some p)
    (input : Array k.Carrier) :
    g.step (.run name input) = ({ g with inputs := g.inputs + 1 },
      .ofSight ((g.slots.parser p).sight (.start g.inputs input))) := by
  have hinputs : ({ g with inputs := g.inputs + 1 } : Registry k).sweep =
      { g with inputs := g.inputs + 1 } := by
    calc ({ g with inputs := g.inputs + 1 } : Registry k).sweep
        = { g.sweep with inputs := g.inputs + 1 } := rfl
      _ = { g with inputs := g.inputs + 1 } := by rw [hsweep]
  simp only [step, act, hp, Parser.sight]
  cases (g.slots.parser p).run (.start g.inputs input) with
  | ok o => exact Prod.ext hinputs rfl
  | error halt => exact Prod.ext hinputs rfl

end Steps

section Leaves

variable {s : SlotStep k} {g' : Registry k} {answer : SlotAnswer k} {handle name : String}
  {size : Nat} {handles : String → Option Nat} {parsers : String → Option (Blueprint SlotRef k)}

/-- Dropping slots makes no slots, and takes away no handles and no parsers. -/
theorem leaves_of_act (h : g.act s = (g', answer)) (hsize : g'.slots.size = size)
    (hhandles : ∀ n, g'.handle? n = handles n) (hparsers : ∀ n, g'.parser? n = parsers n) :
    g.Leaves s answer size handles parsers where
  answer := by simp only [step, h]
  size := by simp only [step, h, sweep, Slots.size_sweep, hsize]
  handles := by
    simp only [step, h]
    exact funext hhandles
  parsers := by
    simp only [step, h]
    exact funext hparsers

theorem leaves_make (g : Registry k) (handle : String) :
    g.Leaves (.make handle) .done (g.slots.size + 1)
      (Function.update g.handle? handle (some g.slots.size)) g.parser? :=
  leaves_of_act rfl (Slots.size_make g.slots) (lookup_setName handle _ g.handles) fun _ => rfl

theorem leaves_copy (h : g.handle? handle = some i) (new : String) :
    g.Leaves (.copy handle new) .done g.slots.size (Function.update g.handle? new (some i))
      g.parser? := by
  have hact : g.act (.copy handle new) =
      ({ g with handles := setName new i g.handles }, .done) := by
    simp only [act, h]
  exact leaves_of_act hact rfl (lookup_setName new i g.handles) fun _ => rfl

/-- A parser with the references that its names stand for at that time. -/
theorem leaves_define {p : Blueprint String k} {q : Blueprint SlotRef k}
    (h : g.resolve? p = some q) (name : String) :
    g.Leaves (.define name p) .done g.slots.size g.handle?
      (Function.update g.parser? name (some q)) := by
  have hact : g.act (.define name p) =
      ({ g with parsers := setName name q g.parsers }, .done) := by
    simp only [act, h]
  exact leaves_of_act hact rfl (fun _ => rfl) (lookup_setName name q g.parsers)

/-- A parser that refers to the slot without holding it. -/
theorem leaves_weak (h : g.handle? handle = some i) (name : String) :
    g.Leaves (.weak handle name) .done g.slots.size g.handle?
      (Function.update g.parser? name (some (.ref (.weak i)))) := by
  have hact : g.act (.weak handle name) =
      ({ g with parsers := setName name (.ref (.weak i)) g.parsers }, .done) := by
    simp only [act, h]
  exact leaves_of_act hact rfl (fun _ => rfl) (lookup_setName name _ g.parsers)

/-- A parser that owns the slot, in place of the handle. -/
theorem leaves_owning (h : g.handle? handle = some i) (name : String) :
    g.Leaves (.owning handle name) .done g.slots.size (Function.update g.handle? handle none)
      (Function.update g.parser? name (some (.ref (.owning i)))) := by
  have hact : g.act (.owning handle name) =
      ({ g with
          handles := eraseName handle g.handles
          parsers := setName name (.ref (.owning i)) g.parsers }, .done) := by
    simp only [act, h]
  exact leaves_of_act hact rfl (lookup_eraseName handle g.handles)
    (lookup_setName name _ g.parsers)

theorem leaves_dropHandle (h : g.handle? handle = some i) :
    g.Leaves (.dropHandle handle) .done g.slots.size (Function.update g.handle? handle none)
      g.parser? := by
  have hact : g.act (.dropHandle handle) =
      ({ g with handles := eraseName handle g.handles }, .done) := by
    simp only [act, h]
  exact leaves_of_act hact rfl (lookup_eraseName handle g.handles) fun _ => rfl

theorem leaves_dropParser {p : Blueprint SlotRef k} (h : g.parser? name = some p) :
    g.Leaves (.dropParser name) .done g.slots.size g.handle?
      (Function.update g.parser? name none) := by
  have hact : g.act (.dropParser name) =
      ({ g with parsers := eraseName name g.parsers }, .done) := by
    simp only [act, h]
  exact leaves_of_act hact rfl (fun _ => rfl) (lookup_eraseName name g.parsers)

/-- Without the names that it needs a step does nothing, before slots are dropped. -/
theorem act_of_lacks (h : g.Lacks s) : g.act s = (g, .missing) := by
  cases s with
  | make handle => exact h.elim
  | assign handle p =>
    obtain h | h := h
    · simp only [act, h]
    · simp only [act, h]
      cases g.handle? handle <;> rfl
  | copy | isSet | weak | owning | dropHandle | define | dropParser | run =>
    simp only [Lacks] at h
    simp only [act, h]

end Leaves

/-- A registry that is sound, where nothing is left to drop and no slots own each other in a circle,
does what is said of slots, as soon as the definitions are the first ones that were offered. -/
theorem Sound.lifeCycle (hg : g.Sound) (hsweep : g.sweep = g)
    (hacyclic : ∀ i, ¬ Relation.TransGen g.slots.Owns i i)
    {offers : Nat → List (Blueprint SlotRef k)}
    (hoffers : ∀ i, g.slots.definition? i = (offers i).head?) : g.LifeCycle offers where
  make handle := by
    refine ⟨?_, g.leaves_make handle⟩
    rw [← List.head?_eq_none_iff, ← hoffers, ← Option.not_isSome_iff_eq_none]
    intro hsome
    obtain ⟨p, hp⟩ := Option.isSome_iff_exists.1 hsome
    exact absurd (Slots.lt_size_of_definition? hp) (Nat.lt_irrefl _)
  made i hi := Slots.lt_size_of_isAlive (hg.alive i hi)
  refers := hg.parsers
  copy handle new i hslot := leaves_copy hslot new
  resolves _ := Blueprint.resolve_eq_none_iff
  resolved _ _ hq _ := Blueprint.mem_refs_of_resolve hq
  define name p q hq := leaves_define hq name
  take_weak handle name i hslot := leaves_weak hslot name
  take_owning handle name i hslot := leaves_owning hslot name
  dropHandle handle i hslot := leaves_dropHandle hslot
  dropParser name p hp := leaves_dropParser hp
  missing s h := by simp only [Registry.step, act_of_lacks h, hsweep]
  definition := hoffers
  alive i := hg.isAlive_iff hsweep hacyclic
  stays i p hp steps := by
    rw [hg.definition?_after, hoffers, hp, Option.some_or]
  isSet handle i hslot := by
    have hset : g.slots.isSet i = !(offers i).isEmpty := by
      rw [Slots.isSet, hoffers]
      cases offers i <;> rfl
    rw [step_isSet hsweep hslot, hset]
  assign_first handle i p q hslot hq hnone := by
    have hunset : g.slots.definition? i = none := by rw [hoffers, hnone, List.head?_nil]
    obtain ⟨slots, hslots, hact⟩ := act_assign_of_unset hslot hq hunset
    refine ⟨leaves_of_act hact (Slots.size_assign hslots) (fun _ => rfl) fun _ => rfl,
      fun j => ?_⟩
    have hoffer : g.offer (.assign handle p) j = if i = j then some q else none := by
      simp only [offer, hslot, hq, Option.some.injEq]
    rw [hg.definition?_step, hoffer]
    split
    · next hij => rw [← hij, hunset, Option.none_or]
    · rw [Option.or_none]
  assign_again handle i p q hslot hq hsome := by
    refine step_assign_of_set hsweep hslot hq ?_
    rw [hoffers]
    exact fun h => hsome (List.head?_eq_none_iff.1 h)
  run name p input hp := step_run hsweep hp input
  weak_dropped_iff i c := by
    rw [Slots.run_weak_eq_dropped_iff, ← Bool.not_eq_true, hg.isAlive_iff hsweep hacyclic, hoffers]
  weak_unassigned_iff i c := by
    rw [Slots.run_weak_eq_unassigned_iff, hg.isAlive_iff hsweep hacyclic, hoffers,
      List.head?_eq_none_iff]
  weak i p c hi hp :=
    g.slots.sight_weak ((hg.isAlive_iff hsweep hacyclic).2 hi) ((hoffers i).trans hp)
  owning_keeps name p i hp hi := .of_held (holds_of_named hp hi)
  owning_dropped_iff i c := by
    rw [Slots.run_owning_eq_dropped_iff, hoffers]
  owning_unassigned_iff i c := by
    rw [Slots.run_owning_eq_unassigned_iff, hoffers, List.head?_eq_none_iff]
  owning i p c hp := g.slots.sight_owning ((hoffers i).trans hp)

/-! ## After any number of steps -/

/-- After any number of steps, if no slots own each other in a circle, slots do what is said of
them, with the definitions that were offered on the way. -/
theorem lifeCycle_after (steps : List (SlotStep k))
    (hacyclic : ∀ i, ¬ Relation.TransGen (after {} steps).slots.Owns i i) :
    (after {} steps).LifeCycle (offers {} steps) ∧
      Fault.assignedTwice.message = "forward reference assigned twice" ∧
      (∀ n, (Fault.dropped n).message =
        s!"forward reference run after its grammar was dropped (position {n})") ∧
      ∀ n, (Fault.unassigned n).message =
        s!"forward reference run before being assigned (position {n})" := by
  refine ⟨?_, rfl, fun _ => rfl, fun _ => rfl⟩
  refine (sound_after steps).lifeCycle (sweep_after steps) hacyclic fun i => ?_
  have hnone : ({} : Registry k).slots.definition? i = none := rfl
  rw [sound_empty.definition?_after, hnone, Option.none_or]

/-- A list is defined by its items, which it owns, and by itself. The items have no definition,
and the only handle that is left is one of the list. -/
def listSteps : List (SlotStep .char) :=
  [.make "list", .copy "list" "clone", .weak "list" "tail", .make "item", .owning "item" "head",
    .assign "list" (.seqRight (.ref "head") (.ref "tail")), .assign "clone" .letter,
    .dropParser "head", .dropHandle "clone"]

/-- With the last handle the list is dropped, and the items with it. -/
def letGo : List (SlotStep .char) := listSteps ++ [.dropHandle "list"]

/-- No slots own each other in a circle, as each one is owned by one that was made before it. -/
theorem acyclic_of_list {g : Registry .char} (hsize : g.slots.size = 2)
    (hlist : g.slots.definition? 0 = some (.seqRight (.ref (.owning 1)) (.ref (.weak 0))))
    (hitem : g.slots.definition? 1 = none) (i : Nat) : ¬ Relation.TransGen g.slots.Owns i i := by
  have howns (j i : Nat) (h : g.slots.Owns j i) : j < i := by
    obtain ⟨p, hp, hi⟩ := h
    have hj : j < 2 := hsize ▸ Slots.lt_size_of_definition? hp
    obtain rfl | rfl : j = 0 ∨ j = 1 := by omega
    · rw [hlist, Option.some.injEq] at hp
      subst hp
      have hi : SlotRef.owning i ∈ [.weak 0, .owning 1] := hi
      simp only [List.mem_cons, List.not_mem_nil, SlotRef.owning.injEq, reduceCtorEq,
        or_false, false_or] at hi
      omega
    · rw [hitem] at hp
      cases hp
  intro h
  have hlt : Relation.TransGen (· < ·) i i := h.lift id howns
  rw [Relation.transGen_eq_self] at hlt
  exact Nat.lt_irrefl i hlt

/-- As long as there is a handle of the list, the items are kept by it but have no definition. When
the last handle is dropped neither of them is kept, and a weak reference to the list finds it
dropped. -/
theorem lifeCycle_after_listSteps :
    ((after {} listSteps).LifeCycle (offers {} listSteps) ∧
      offers {} listSteps 0 = [.seqRight (.ref (.owning 1)) (.ref (.weak 0)), .letter] ∧
      (after {} listSteps).Keeps 0 ∧ (after {} listSteps).Keeps 1 ∧
      (∀ c, ((after {} listSteps).slots.parser (.ref (.weak 1))).run c =
        Run.fault (.unassigned c.position)) ∧
      (after {} listSteps).step (.assign "list" .letter) =
        (after {} listSteps, .halted (.fault .assignedTwice))) ∧
    (after {} letGo).LifeCycle (offers {} letGo) ∧
      (after {} letGo).handle? =
        Function.update (after {} listSteps).handle? "list" none ∧
      ¬ (after {} letGo).Keeps 0 ∧ ¬ (after {} letGo).Keeps 1 ∧
      (after {} letGo).parser? "tail" = some (.ref (.weak 0)) ∧
      ∀ c, ((after {} letGo).slots.parser (.ref (.weak 0))).run c =
        Run.fault (.dropped c.position) := by
  have hlife : (after {} listSteps).LifeCycle (offers {} listSteps) :=
    (lifeCycle_after listSteps (acyclic_of_list rfl rfl rfl)).1
  have hlet : (after {} letGo).LifeCycle (offers {} letGo) :=
    (lifeCycle_after letGo (acyclic_of_list rfl rfl rfl)).1
  have hkept : (after {} listSteps).Keeps 1 := (hlife.alive 1).1 rfl
  have hlist : ¬ (after {} letGo).Keeps 0 := fun h => nomatch (hlet.alive 0).2 h
  have hitems : ¬ (after {} letGo).Keeps 1 := fun h => nomatch (hlet.alive 1).2 h
  refine ⟨⟨hlife, rfl, (hlife.alive 0).1 rfl, hkept, fun c => ?_, ?_⟩, hlet, ?_, hlist,
    hitems, rfl, fun c => ?_⟩
  · exact (hlife.weak_unassigned_iff 1 c).2 ⟨hkept, .inl rfl⟩
  · exact hlife.assign_again "list" 0 .letter .letter rfl rfl nofun
  · exact (hlife.dropHandle "list" 0 rfl).handles
  · exact (hlet.weak_dropped_iff 0 c).2 (.inl hlist)

end Registry

end ParserKit
