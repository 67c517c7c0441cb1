/-!
# Nested calls

Parsers call each other as deeply as their input is nested. Calls go through `guarded`, which
runs a computation and changes nothing about it; any depth of nesting comes to its end.

## Main definitions

* `guarded`: run a computation
* `thunkChain`: computations that run each other
* `descend`: a function that calls itself
-/

namespace ParserKit.Nesting

/-- Run a computation. -/
@[noinline] def guarded {α : Type} (run : Unit → α) : α := run ()

/-- `depth` computations, each of which runs the one before it and adds one to its result. -/
def thunkChain (depth : Nat) : Unit → Nat :=
  (List.range depth).foldl (fun inner _ => fun _ => guarded inner + 1) fun _ => 0

/-- Call itself `depth` times, adding one on the way back. -/
def descend : Nat → Nat
  | 0 => 0
  | depth + 1 => guarded fun _ => descend depth + 1

end ParserKit.Nesting
