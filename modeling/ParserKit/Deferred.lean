import ParserKit.Fault

/-!
# Deferred results

A deferred result is computed at most once, on first demand. It can be looked at, which keeps
what was found for the next look, or taken, which uses it up. A look that halts leaves the
result poisoned: every later demand faults and nothing is run again.

The suspended work may have effects `n`. Parsing has none; an effect that counts makes it
possible to say how often the work is done.

## Main definitions

* `Deferred n α`: suspended work, a known result, or a poisoned one
* `Deferred.take`: the result, by using it up
* `Deferred.look`: the result, and what is left to look at
-/

namespace ParserKit

/-- A result that is computed on demand, with the effects of `n`. -/
inductive Deferred (n : Type → Type) (α : Type) where
  /-- The work has not been done. -/
  | pending (work : Unit → Run n α)
  /-- The result is known. -/
  | settled (value : α)
  /-- The work halted while the result was looked at. -/
  | poisoned

namespace Deferred

variable {n : Type → Type} [Monad n] {α : Type}

/-- Use up a deferred result. -/
def take : Deferred n α → Run n α
  | .pending work => work ()
  | .settled value => pure value
  | .poisoned => Run.fault .poisoned

/-- Look at a deferred result: what is seen, and what a later demand finds. -/
def look : Deferred n α → n (Except Halt α × Deferred n α)
  | .pending work => do
    match ← (work ()).run with
    | .ok value => return (.ok value, .settled value)
    | .error halt => return (.error halt, .poisoned)
  | .settled value => return (.ok value, .settled value)
  | .poisoned => return (.error (.fault .poisoned), .poisoned)

end Deferred

end ParserKit
