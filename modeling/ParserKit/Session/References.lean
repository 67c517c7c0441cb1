import ParserKit.Session.Parsing

/-!
# The life of slots

Slots are reached through handles and through parsers, both with names. A handle keeps its slot,
and so does an owning parser, by its own name or inside another parser with a name. When the
last of them is gone the slot is dropped.

## Main definitions

* `Registry`: the handles and parsers with names
* `SlotStep`, `Registry.step`: the steps, and what they do
-/

namespace ParserKit

/-- Handles and parsers by name. -/
structure Registry (k : Kind) where
  /-- The slots. -/
  slots : Slots k := {}
  /-- The slot of each handle. -/
  handles : List (String × Nat) := []
  /-- The parsers. -/
  parsers : List (String × Blueprint SlotRef k) := []
  /-- The number of inputs so far. -/
  inputs : Nat := 0

/-- The steps in the life of slots. In a blueprint a reference is the name of a parser. -/
inductive SlotStep (k : Kind) where
  /-- Make a slot with a handle. -/
  | make (handle : String)
  /-- Copy a handle. -/
  | copy (handle new : String)
  /-- Whether the slot of a handle is defined. -/
  | isSet (handle : String)
  /-- Define the slot of a handle. -/
  | assign (handle : String) (p : Blueprint String k)
  /-- Give a name to a parser. -/
  | define (name : String) (p : Blueprint String k)
  /-- Name a weak reference to the slot of a handle. -/
  | weak (handle name : String)
  /-- Turn a handle into an owning reference with a name. -/
  | owning (handle name : String)
  /-- Let go of a handle. -/
  | dropHandle (handle : String)
  /-- Let go of a parser. -/
  | dropParser (name : String)
  /-- Run a parser. -/
  | run (name : String) (input : Array k.Carrier)

/-- The answer to a step. -/
inductive SlotAnswer (k : Kind) where
  /-- The step was done. -/
  | done
  /-- A name that the step needs is not there. -/
  | missing
  /-- The step halted. -/
  | halted (h : Halt)
  /-- A truth value. -/
  | flag (b : Bool)
  /-- The outcome of a run. -/
  | outcome (seen : Sighting k.Carrier Value)

/-- The entries without the one of a name. -/
def eraseName {α : Type} (name : String) (entries : List (String × α)) : List (String × α) :=
  entries.filter fun e => e.1 != name

/-- The entries with one of a name, in the place of an older one. -/
def setName {α : Type} (name : String) (a : α) (entries : List (String × α)) :
    List (String × α) :=
  (name, a) :: eraseName name entries

namespace Registry

variable {k : Kind}

/-- The slot of a handle. -/
def handle? (g : Registry k) (name : String) : Option Nat := g.handles.lookup name

/-- The parser of a name. -/
def parser? (g : Registry k) (name : String) : Option (Blueprint SlotRef k) :=
  g.parsers.lookup name

/-- The slots that are kept from outside. -/
def held (g : Registry k) : List Nat :=
  g.handles.map (·.2) ++ g.parsers.flatMap fun e => g.slots.keptBy e.2

/-- Drop the slots that nobody keeps. -/
def sweep (g : Registry k) : Registry k := { g with slots := g.slots.sweep g.held }

/-- A blueprint with the parsers in the place of their names. -/
def resolve? (g : Registry k) (p : Blueprint String k) : Option (Blueprint SlotRef k) :=
  p.resolve g.parser?

/-- What a step does, before slots are dropped. -/
def act (g : Registry k) : SlotStep k → Registry k × SlotAnswer k
  | .make handle =>
    let (slot, slots) := g.slots.make
    ({ g with slots, handles := setName handle slot g.handles }, .done)
  | .copy handle new =>
    match g.handle? handle with
    | some slot => ({ g with handles := setName new slot g.handles }, .done)
    | none => (g, .missing)
  | .isSet handle =>
    match g.handle? handle with
    | some slot => (g, .flag (g.slots.isSet slot))
    | none => (g, .missing)
  | .assign handle p =>
    match g.handle? handle, g.resolve? p with
    | some slot, some p =>
      match g.slots.assign slot p with
      | .ok slots => ({ g with slots }, .done)
      | .error f => (g, .halted (.fault f))
    | _, _ => (g, .missing)
  | .define name p =>
    match g.resolve? p with
    | some p => ({ g with parsers := setName name p g.parsers }, .done)
    | none => (g, .missing)
  | .weak handle name =>
    match g.handle? handle with
    | some slot => ({ g with parsers := setName name (.ref (.weak slot)) g.parsers }, .done)
    | none => (g, .missing)
  | .owning handle name =>
    match g.handle? handle with
    | some slot =>
      ({ g with
          handles := eraseName handle g.handles
          parsers := setName name (.ref (.owning slot)) g.parsers }, .done)
    | none => (g, .missing)
  | .dropHandle handle =>
    match g.handle? handle with
    | some _ => ({ g with handles := eraseName handle g.handles }, .done)
    | none => (g, .missing)
  | .dropParser name =>
    match g.parser? name with
    | some _ => ({ g with parsers := eraseName name g.parsers }, .done)
    | none => (g, .missing)
  | .run name input =>
    match g.parser? name with
    | some p =>
      let g' := { g with inputs := g.inputs + 1 }
      match ((g.slots.parser p).run (.start g.inputs input)).run with
      | .ok o => (g', .outcome o.sight)
      | .error h => (g', .halted h)
    | none => (g, .missing)

/-- What a step does, and its answer. -/
def step (g : Registry k) (s : SlotStep k) : Registry k × SlotAnswer k :=
  let (g, answer) := g.act s
  (g.sweep, answer)

end Registry

end ParserKit
