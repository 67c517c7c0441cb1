import ParserKit.Blueprint.Basic

/-!
# Slots

A slot holds the definition of a recursive parser. It is made before the definition exists, so
that the definition can refer to it, and is defined once.

There are two kinds of references to a slot. An *owning* reference keeps the slot; a *weak* one
does not, and is what a definition uses to refer to itself. A slot that nobody keeps is dropped,
and is never found again. It is kept by those who hold it from outside, and by owning references
in the definitions of slots that are kept; slots that keep each other in a circle stay.

A third kind of reference does not look at the slot but puts its definition in place.

## Main definitions

* `SlotRef`: references to slots
* `Slots`: the slots made so far
* `Slots.make`, `Slots.assign`, `Slots.sweep`: making, defining and dropping
-/

namespace ParserKit

/-- A reference to a slot, by number. -/
inductive SlotRef where
  /-- A reference that does not keep the slot. -/
  | weak (slot : Nat)
  /-- A reference that keeps the slot. -/
  | owning (slot : Nat)
  /-- The definition of the slot, built anew at each use. -/
  | inline (slot : Nat)
deriving DecidableEq

/-- A slot: its definition, and whether it is still kept. -/
structure Slot (k : Kind) where
  /-- The definition, once there is one. -/
  definition : Option (Blueprint SlotRef k) := none
  /-- Whether the slot is kept. -/
  alive : Bool := true

/-- The slots made so far, by number. -/
structure Slots (k : Kind) where
  /-- The slots. -/
  slots : Array (Slot k) := #[]

namespace Slots

variable {k : Kind}

/-- The number of slots. -/
def size (s : Slots k) : Nat := s.slots.size

/-- Make a slot; its number is the result. -/
def make (s : Slots k) : Nat × Slots k := (s.slots.size, ⟨s.slots.push {}⟩)

/-- The definition of a slot. -/
def definition? (s : Slots k) (slot : Nat) : Option (Blueprint SlotRef k) :=
  s.slots[slot]?.bind (·.definition)

/-- Whether a slot has a definition. -/
def isSet (s : Slots k) (slot : Nat) : Bool := (s.definition? slot).isSome

/-- Whether a slot is kept. -/
def isAlive (s : Slots k) (slot : Nat) : Bool := s.slots[slot]?.any (·.alive)

/-- Define a slot. The first definition stays: a second one is a fault. -/
def assign (s : Slots k) (slot : Nat) (p : Blueprint SlotRef k) : Except Fault (Slots k) :=
  if s.isSet slot then .error .assignedTwice
  else .ok ⟨s.slots.modify slot fun t => { t with definition := some p }⟩

/-! ## Dropping -/

/-- The slots whose definitions a list of references puts in place, itself and through other
definitions; `depth` limits how far it looks. -/
def inlined (s : Slots k) : Nat → List SlotRef → List Nat
  | 0, _ => []
  | depth + 1, refs =>
    let here := refs.filterMap fun
      | .inline slot => some slot
      | _ => none
    let inner := here.eraseDups.flatMap fun slot =>
      ((s.definition? slot).map (·.refs)).getD []
    here ++ s.inlined depth inner.eraseDups

/-- The slots that a blueprint keeps. -/
def keptBy (s : Slots k) (p : Blueprint SlotRef k) : List Nat :=
  let direct := p.refs
  let inner := (s.inlined (s.size + 1) direct).eraseDups.flatMap fun slot =>
    ((s.definition? slot).map (·.refs)).getD []
  (direct ++ inner).filterMap fun
    | .owning slot => some slot
    | _ => none

/-- One round: the slots of `alive` that are held, or kept by the definition of one of them. -/
def supported (s : Slots k) (held alive : List Nat) : List Nat :=
  let kept := alive.flatMap fun slot => ((s.definition? slot).map s.keptBy).getD []
  alive.filter fun slot => held.contains slot || kept.contains slot

/-- What remains after a number of rounds. -/
def supportedAfter (s : Slots k) (held : List Nat) : Nat → List Nat → List Nat
  | 0, alive => alive
  | rounds + 1, alive => s.supportedAfter held rounds (s.supported held alive)

/-- Drop the slots that are kept neither by `held` nor by each other. -/
def sweep (s : Slots k) (held : List Nat) : Slots k :=
  let alive := s.supportedAfter held s.size ((List.range s.size).filter s.isAlive)
  ⟨s.slots.mapIdx fun i t => { t with alive := alive.contains i }⟩

end Slots

end ParserKit
