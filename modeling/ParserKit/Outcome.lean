import ParserKit.Deferred
import ParserKit.Reply

/-!
# Outcomes

An outcome is a reply together with a tag: whether any input was consumed to produce it.
Choosing between alternatives needs the tag alone, so the reply of a consumed outcome is
deferred.

`Outcome.andThen` is the rule behind every parser that runs one parser after another:

* an empty success is followed by the second parser, whose outcome is the result;
* an empty failure is the result, and the second parser is not run;
* a consumed outcome gives a consumed one: whether the first parser succeeded, and what the
  second one does, is found out when the reply is asked for.

## Main definitions

* `Outcome n σ α`: consumed with a deferred reply, or empty with a known one
* `Outcome.map`, `Outcome.andThen`
* `Outcome.takeReply`, `Outcome.lookReply`
-/

namespace ParserKit

/-- What running a parser gives; deferred work has the effects of `n`. -/
inductive Outcome (n : Type → Type) (σ α : Type) where
  /-- At least one symbol was consumed. -/
  | consumed (reply : Deferred n (Reply σ α))
  /-- No symbol was consumed. -/
  | empty (reply : Reply σ α)

namespace Outcome

variable {n : Type → Type} {σ α β : Type}

/-- A consumed outcome whose reply is computed on demand. -/
def defer (work : Unit → Run n (Reply σ α)) : Outcome n σ α := .consumed (.pending work)

/-- A consumed success. -/
def consumedOk (value : α) (rest : Cursor σ) : Outcome n σ α :=
  .consumed (.settled (.ok value rest))

/-- A success without consumption. -/
def emptyOk (value : α) (rest : Cursor σ) : Outcome n σ α := .empty (.ok value rest)

/-- A failure without consumption. -/
def emptyError (message : Message σ) : Outcome n σ α := .empty (.error message)

/-- Whether input was consumed. The reply stays deferred. -/
def isConsumed : Outcome n σ α → Bool
  | .consumed _ => true
  | .empty _ => false

/-- Whether this is a failure without consumption, the one case in which alternatives are
tried. -/
def failedEmpty : Outcome n σ α → Bool
  | .empty (.error _) => true
  | _ => false

variable [Monad n]

/-- The reply, by using up the outcome. -/
def takeReply : Outcome n σ α → Run n (Reply σ α)
  | .consumed reply => reply.take
  | .empty reply => pure reply

/-- The reply, and the outcome that a later demand finds. -/
def lookReply : Outcome n σ α → n (Except Halt (Reply σ α) × Outcome n σ α)
  | .consumed reply => do
    let (seen, left) ← reply.look
    return (seen, .consumed left)
  | .empty reply => return (.ok reply, .empty reply)

/-- The outcome with its value changed by `f`. The tag stays, and so does the deferral. -/
def map (f : α → β) : Outcome n σ α → Outcome n σ β
  | .consumed reply => defer fun _ => Reply.map f <$> reply.take
  | .empty reply => .empty (reply.map f)

/-- Go on with `k` after a success. Once anything was consumed the result is consumed, whatever
`k` does. -/
def andThen (o : Outcome n σ α) (k : α → Cursor σ → Run n (Outcome n σ β)) :
    Run n (Outcome n σ β) :=
  match o with
  | .empty (.ok value rest) => k value rest
  | .empty (.error message) => pure (emptyError message)
  | .consumed reply => pure <| defer fun _ => do
    match ← reply.take with
    | .ok value rest => (← k value rest).takeReply
    | .error message => return .error message

/-- The outcome part by part; a deferred reply is not looked at. -/
def describe [Symbol σ] (showValue : α → String) : Outcome n σ α → String
  | .consumed _ => "Consumed(Deferred(..))"
  | .empty reply => s!"Empty({reply.describe showValue})"

end Outcome

end ParserKit
