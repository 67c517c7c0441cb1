import ParserKit.Message

/-!
# A pool of messages

Messages are made, extended and merged one step at a time, and every one stays in the pool.

## Main definitions

* `MessagePool`: the messages so far
* `MessageStep`, `MessageQuery`: steps, and questions to a message
* `MessagePool.step`: what a step does, and its answer
-/

namespace ParserKit

/-- The messages so far, in the order in which they were made. -/
structure MessagePool (σ : Type) where
  /-- The messages. -/
  messages : Array (Message σ) := #[]

/-- Questions to a message. -/
inductive MessageQuery where
  /-- Whether the failure was at the end of the input. -/
  | isAtEnd
  /-- Its labels as a list. -/
  | expected
  /-- Its text. -/
  | render
  /-- Its description. -/
  | describe
  /-- The failure that it stands for. -/
  | failure
deriving DecidableEq

/-- A step in the life of a pool. -/
inductive MessageStep (σ : Type) where
  /-- A message that expects nothing. -/
  | bare (position : Nat) (unexpected : Option σ)
  /-- A message on a place of an input, with a label or without. -/
  | on (input : Array σ) (offset : Nat) (label : Option String)
  /-- A message with one more label. -/
  | withExpected (i : Nat) (label : String)
  /-- A message with another label. -/
  | relabel (i : Nat) (label : String)
  /-- The merge of two messages. -/
  | merge (i j : Nat)
  /-- A question to a message. -/
  | ask (query : MessageQuery) (i : Nat)
  /-- Whether two messages are equal. -/
  | same (i j : Nat)

/-- The answer to a step. -/
inductive MessageAnswer (σ : Type) where
  /-- A new message. -/
  | made (m : Message σ)
  /-- The step faulted. -/
  | fault (f : Fault)
  /-- There is no message of that number. -/
  | missing
  /-- A truth value. -/
  | flag (b : Bool)
  /-- A text. -/
  | text (s : String)
  /-- A failure: where it is, its text and its description, and whether it equals its copy. -/
  | failure (position : Nat) (text description : String) (same : Bool)

namespace MessagePool

variable {σ : Type}

/-- Put a message into the pool. -/
def add (p : MessagePool σ) (m : Message σ) : MessagePool σ × MessageAnswer σ :=
  (⟨p.messages.push m⟩, .made m)

/-- A message on the place `offset` symbols into an input. -/
def messageOn (input : Array σ) (offset : Nat) (label : Option String) :
    Except Fault (Message σ) := do
  let c ← (Cursor.start 0 input).advanceBy offset
  return label.elim (Message.on c) (Message.expecting c)

variable [Symbol σ] [DecidableEq σ]

/-- The answer of a message to a question. -/
def answer (m : Message σ) : MessageQuery → MessageAnswer σ
  | .isAtEnd => .flag m.isAtEnd
  | .expected => .text m.expected.render
  | .render => .text m.render
  | .describe => .text m.describe
  | .failure => .failure m.position m.render m.describeFailure (m == m)

/-- What a step does to the pool, and its answer. -/
def step (p : MessagePool σ) : MessageStep σ → MessagePool σ × MessageAnswer σ
  | .bare position unexpected => p.add (.bare position unexpected)
  | .on input offset label =>
    match messageOn input offset label with
    | .ok m => p.add m
    | .error f => (p, .fault f)
  | .withExpected i label =>
    match p.messages[i]? with
    | some m => p.add (m.withExpected label)
    | none => (p, .missing)
  | .relabel i label =>
    match p.messages[i]? with
    | some m => p.add (m.relabel label)
    | none => (p, .missing)
  | .merge i j =>
    match p.messages[i]?, p.messages[j]? with
    | some m, some k => p.add (m.merge k)
    | _, _ => (p, .missing)
  | .ask query i =>
    match p.messages[i]? with
    | some m => (p, answer m query)
    | none => (p, .missing)
  | .same i j =>
    match p.messages[i]?, p.messages[j]? with
    | some m, some k => (p, .flag (m == k))
    | _, _ => (p, .missing)

end MessagePool

end ParserKit
