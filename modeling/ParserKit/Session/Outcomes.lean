import ParserKit.Session.Parsing
import ParserKit.Value.Json

/-!
# Working on one outcome

A workbench holds an outcome, a reply and a saved reply. The outcome is made or comes from a
parser, is mapped and continued, looked at and used up, step by step.

## Main definitions

* `OutcomeForm`: outcomes to be made from a cursor
* `Workbench`: what is held
* `OutcomeStep`, `Workbench.step`: the steps, and what they do
-/

namespace ParserKit

/-- A value to be used, or the value that came in. -/
inductive Slip where
  /-- The value given. -/
  | value (v : Value)
  /-- The value that came in. -/
  | pass

/-- The value of a slip. -/
def Slip.fill (incoming : Value) : Slip → Value
  | .value v => v
  | .pass => incoming

/-- An outcome to be made, relative to a cursor. -/
inductive OutcomeForm where
  /-- A consumed success some symbols further. -/
  | consumedOk (v : Slip) (count : Nat)
  /-- An empty success some symbols further. -/
  | emptyOk (v : Slip) (count : Nat)
  /-- A consumed failure some symbols further. -/
  | consumedError (count : Nat) (label : String)
  /-- An empty failure some symbols further. -/
  | emptyError (count : Nat) (label : String)
  /-- A consumed success that moves the cursor when it is asked for. -/
  | consumedLater (v : Slip) (count : Nat)

/-- Make an outcome from a cursor and the value that came in. -/
def OutcomeForm.make {σ : Type} (c : Cursor σ) (incoming : Value) :
    OutcomeForm → Exec (Outcome Id σ Value)
  | .consumedOk v count => do
    return .consumedOk (v.fill incoming) (← Run.ofExcept (c.advanceBy count))
  | .emptyOk v count => do
    return .emptyOk (v.fill incoming) (← Run.ofExcept (c.advanceBy count))
  | .consumedError count label => do
    let rest ← Run.ofExcept (c.advanceBy count)
    return .consumed (.settled (.error (.expecting rest label)))
  | .emptyError count label => do
    let rest ← Run.ofExcept (c.advanceBy count)
    return .emptyError (.expecting rest label)
  | .consumedLater v count =>
    return .defer fun _ => do
      return .ok (v.fill incoming) (← Run.ofExcept (c.advanceBy count))

/-- What is held while working on an outcome. -/
structure Workbench (k : Kind) where
  /-- The place where outcomes are made. -/
  cursor : Cursor k.Carrier
  /-- The number of inputs so far. -/
  inputs : Nat := 1
  /-- The outcome. -/
  outcome : Option (Outcome Id k.Carrier Value) := none
  /-- The reply. -/
  reply : Option (Reply k.Carrier Value) := none
  /-- The saved reply. -/
  saved : Option (Reply k.Carrier Value) := none

/-- The steps of the work. -/
inductive OutcomeStep (k : Kind) where
  /-- Make an outcome. -/
  | make (form : OutcomeForm)
  /-- Take the outcome of a parser. -/
  | run (p : Blueprint SlotRef k)
  /-- Begin a new input. -/
  | restart (input : Array k.Carrier)
  /-- Map the outcome a number of times. -/
  | map (count : Nat) (f : Value.Operation)
  /-- Continue the outcome. -/
  | andThen (form : OutcomeForm)
  /-- Whether the outcome is consumed. -/
  | isConsumed
  /-- Whether the outcome is an empty failure. -/
  | failedEmpty
  /-- The description of the outcome. -/
  | describeOutcome
  /-- Look at the reply of the outcome. -/
  | look
  /-- Look at the reply of the outcome and keep a copy. -/
  | copyReply
  /-- Use up the outcome for its reply. -/
  | takeReply
  /-- Whether the reply is a success. -/
  | isOk
  /-- The value of the reply. -/
  | value
  /-- Where the reply goes on. -/
  | rest
  /-- The message of the reply. -/
  | message
  /-- The reply, by cases. -/
  | fold
  /-- The reply as a result. -/
  | result
  /-- The description of the reply. -/
  | describeReply
  /-- Map the reply. -/
  | mapReply (f : Value.Operation)
  /-- Save a copy of the reply. -/
  | save
  /-- Whether the reply agrees with the saved one. -/
  | sameAsSaved

/-- The answer to a step. -/
inductive OutcomeAnswer (k : Kind) where
  /-- The step was done. -/
  | done
  /-- Something that the step needs is not there. -/
  | missing
  /-- The step halted. -/
  | halted (h : Halt)
  /-- A truth value. -/
  | flag (b : Bool)
  /-- A text. -/
  | text (s : String)
  /-- A reply. -/
  | reply (r : Reply k.Carrier Value)
  /-- A value, if there is one. -/
  | value (v : Option Value)
  /-- A position, if there is one. -/
  | position (n : Option Nat)
  /-- A message, if there is one. -/
  | message (m : Option (Message k.Carrier))
  /-- A value and a position, or the text of a message. -/
  | fold (r : Except String (Value × Nat))
  /-- A value, or a message. -/
  | result (r : Except (Message k.Carrier) Value)

namespace Workbench

variable {k : Kind}

/-- A workbench at the start of an input. -/
def start (input : Array k.Carrier) : Workbench k := { cursor := .start 0 input }

/-- Put the outcome of a computation on the bench, unless it halts. -/
def put (w : Workbench k) (o : Exec (Outcome Id k.Carrier Value)) :
    Workbench k × OutcomeAnswer k :=
  match o.run with
  | .ok o => ({ w with outcome := some o }, .done)
  | .error h => (w, .halted h)

/-- Do something with the outcome. -/
def withOutcome (w : Workbench k)
    (f : Outcome Id k.Carrier Value → Workbench k × OutcomeAnswer k) :
    Workbench k × OutcomeAnswer k :=
  match w.outcome with
  | some o => f o
  | none => (w, .missing)

/-- Ask something of the reply. -/
def askReply (w : Workbench k) (f : Reply k.Carrier Value → OutcomeAnswer k) :
    Workbench k × OutcomeAnswer k :=
  match w.reply with
  | some r => (w, f r)
  | none => (w, .missing)

/-- Look at the reply of the outcome, leaving what a later look finds. -/
def lookAt (w : Workbench k) (o : Outcome Id k.Carrier Value)
    (seen : Workbench k → Reply k.Carrier Value → Workbench k × OutcomeAnswer k) :
    Workbench k × OutcomeAnswer k :=
  let (found, left) : Except Halt (Reply k.Carrier Value) × Outcome Id k.Carrier Value :=
    o.lookReply
  let w := { w with outcome := some left }
  match found with
  | .ok r => seen w r
  | .error h => (w, .halted h)

/-- The reply by cases. -/
def foldReply : Reply k.Carrier Value → Except String (Value × Nat)
  | .ok value rest => .ok (value, rest.position)
  | .error message => .error message.render

/-- What a step does, and its answer. -/
def step (w : Workbench k) : OutcomeStep k → Workbench k × OutcomeAnswer k
  | .make form => w.put (form.make w.cursor .unit)
  | .run p => w.put ((Slots.parser {} p).run w.cursor)
  | .restart input =>
    ({ w with cursor := .start w.inputs input, inputs := w.inputs + 1 }, .done)
  | .map count f => w.withOutcome fun o =>
    ({ w with outcome := some (Nat.repeat (Outcome.map f.apply) count o) }, .done)
  | .andThen form => w.withOutcome fun o =>
    ({ w with outcome := none }).put (o.andThen fun v rest => form.make rest v)
  | .isConsumed => w.withOutcome fun o => (w, .flag o.isConsumed)
  | .failedEmpty => w.withOutcome fun o => (w, .flag o.failedEmpty)
  | .describeOutcome => w.withOutcome fun o => (w, .text (o.describe Value.toJson))
  | .look => w.withOutcome fun o => w.lookAt o fun w r => (w, .reply r)
  | .copyReply => w.withOutcome fun o =>
    w.lookAt o fun w r => ({ w with reply := some r }, .done)
  | .takeReply => w.withOutcome fun o =>
    match o.takeReply.run with
    | .ok r => ({ w with outcome := none, reply := some r }, .done)
    | .error h => ({ w with outcome := none }, .halted h)
  | .isOk => w.askReply fun r => .flag r.isOk
  | .value => w.askReply fun r => .value r.value?
  | .rest => w.askReply fun r => .position (r.rest?.map (·.position))
  | .message => w.askReply fun r => .message r.message?
  | .fold => w.askReply fun r => .fold (foldReply r)
  | .result => w.askReply fun r => .result r.toExcept
  | .describeReply => w.askReply fun r => .text (r.describe Value.toJson)
  | .mapReply f =>
    match w.reply with
    | some r => ({ w with reply := some (r.map f.apply) }, .done)
    | none => (w, .missing)
  | .save =>
    match w.reply with
    | some r => ({ w with saved := some r }, .done)
    | none => (w, .missing)
  | .sameAsSaved =>
    match w.reply, w.saved with
    | some r, some s => (w, .flag (r.same s))
    | _, _ => (w, .missing)

end Workbench

end ParserKit
