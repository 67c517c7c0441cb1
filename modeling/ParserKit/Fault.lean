/-!
# Faults

A parse either comes to an end with a reply or breaks a contract. Breaking a contract is a
*fault*: stepping a cursor past the end of its input, running a reference that has no
definition, looking twice at a reply whose computation broke down. A function handed to the
library may give up as well, with a text of its own. A fault is not a parse failure: no
alternative is tried after it.

The definitions of this library are total, so a run that would go on for ever is a value too:
it comes to a halt as `exhausted`.

## Main definitions

* `Fault`, `Fault.message`: the causes, and the text of each
* `Halt`: a fault, or a run without an end
* `Run n`: computations that may halt, over the effects of `n`; `Exec` has no other effect
-/

namespace ParserKit

/-- The ways to break a contract of the library. -/
inductive Fault where
  /-- The symbol under a cursor was asked for at the end of the input. -/
  | readAtEnd (position : Nat)
  /-- A cursor was moved by one symbol at the end of the input. -/
  | stepAtEnd (position : Nat)
  /-- A cursor was moved by more symbols than were left. -/
  | stepPastEnd (count position length : Nat)
  /-- A reference was run before its slot had a definition. -/
  | unassigned (position : Nat)
  /-- A reference was run after its slot had been given up. -/
  | dropped (position : Nat)
  /-- A slot was defined a second time. -/
  | assignedTwice
  /-- A reply was asked for again after its computation had faulted. -/
  | poisoned
  /-- A function handed to the library gave up, with a text of its own. -/
  | raised (text : String)
deriving DecidableEq, Repr

/-- The text of a fault. -/
def Fault.message : Fault → String
  | .readAtEnd position => s!"current() called at end of input (position {position})"
  | .stepAtEnd position => s!"advance() called at end of input (position {position})"
  | .stepPastEnd count position length =>
    s!"advance_by({count}) past end of input (position {position}, length {length})"
  | .unassigned position =>
    s!"forward reference run before being assigned (position {position})"
  | .dropped position =>
    s!"forward reference run after its grammar was dropped (position {position})"
  | .assignedTwice => "forward reference assigned twice"
  | .poisoned => "Lazy instance has previously been poisoned"
  | .raised text => text

/-- Why a computation stopped without a result. -/
inductive Halt where
  /-- A contract was broken. -/
  | fault (fault : Fault)
  /-- The computation has no end. -/
  | exhausted
deriving DecidableEq, Repr

/-- Computations that may halt, over the effects of `n`. -/
abbrev Run (n : Type → Type) : Type → Type := ExceptT Halt n

/-- Computations that may halt and have no other effect. -/
abbrev Exec : Type → Type := Run Id

namespace Run

variable {n : Type → Type} [Monad n] {α : Type}

/-- Halt with a fault. -/
def fault (f : Fault) : Run n α := throw (.fault f)

/-- The computation that never comes to an end. -/
def exhausted : Run n α := throw .exhausted

/-- A step that may fault, as a computation. -/
def ofExcept : Except Fault α → Run n α
  | .ok a => pure a
  | .error f => fault f

end Run

end ParserKit
