import ParserKit.Message

/-!
# Replies

The reply of a parser is a value together with the place where the next parser goes on, or a
message.
-/

namespace ParserKit

/-- Success with a value and a cursor behind what was read, or failure with a message. -/
inductive Reply (σ α : Type) where
  /-- The parser produced `value`; parsing goes on at `rest`. -/
  | ok (value : α) (rest : Cursor σ)
  /-- The parser failed. -/
  | error (message : Message σ)

namespace Reply

variable {σ α β : Type}

/-- Whether the reply is a success. -/
def isOk : Reply σ α → Bool
  | .ok .. => true
  | .error _ => false

/-- The value of a success. -/
def value? : Reply σ α → Option α
  | .ok value _ => some value
  | .error _ => none

/-- The cursor behind a success. -/
def rest? : Reply σ α → Option (Cursor σ)
  | .ok _ rest => some rest
  | .error _ => none

/-- The message of a failure. -/
def message? : Reply σ α → Option (Message σ)
  | .ok .. => none
  | .error message => some message

/-- The reply with its value changed by `f`. -/
def map (f : α → β) : Reply σ α → Reply σ β
  | .ok value rest => .ok (f value) rest
  | .error message => .error message

/-- The value of the reply, or its message. -/
def toExcept : Reply σ α → Except (Message σ) α
  | .ok value _ => .ok value
  | .error message => .error message

/-- Whether two replies agree: equal values at the same place, or equal messages. -/
def same [BEq α] [DecidableEq σ] : Reply σ α → Reply σ α → Bool
  | .ok v c, .ok w d => v == w && c.same d
  | .error m, .error k => m == k
  | _, _ => false

/-- The reply part by part; `showValue` gives the text of a value. -/
def describe [Symbol σ] (showValue : α → String) : Reply σ α → String
  | .ok value rest =>
    let shown := showValue value
    s!"Ok \x7b value: {shown}, rest: {rest.describe} \x7d"
  | .error message => s!"Error({message.describe})"

end Reply

end ParserKit
