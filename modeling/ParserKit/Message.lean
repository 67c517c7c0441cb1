import ParserKit.Cursor.Basic
import ParserKit.Labels
import ParserKit.Text.Quoted

/-!
# Failure messages

A message says where a parse failed, which symbol stood there, and what would have been
accepted instead. The messages of two failed alternatives are merged: the one that got further
wins, and at the same place their labels are pooled.

## Main definitions

* `Symbol`: how a symbol is shown
* `Message`, `Message.expecting`, `Message.merge`
* `Message.render`: the text for a reader
-/

namespace ParserKit

/-- Symbols that can be shown in a message. -/
class Symbol (σ : Type) where
  /-- The symbol as a message shows it. -/
  quoted : σ → String

instance : Symbol Char := ⟨Text.quoteChar⟩

instance : Symbol UInt8 := ⟨fun b => toString b.toNat⟩

/-- The description of a failed parse. -/
structure Message (σ : Type) where
  /-- The number of symbols before the place of the failure. -/
  position : Nat
  /-- The symbol found there, or `none` at the end of the input. -/
  unexpected : Option σ
  /-- What would have been accepted. -/
  expected : Labels
deriving DecidableEq

namespace Message

variable {σ : Type}

/-- A message that expects nothing. -/
def bare (position : Nat) (unexpected : Option σ) : Message σ := ⟨position, unexpected, ∅⟩

/-- A message on the symbol under a cursor. -/
def on (c : Cursor σ) : Message σ := bare c.position c.peek

/-- The message with one more label. -/
def withExpected (m : Message σ) (label : String) : Message σ :=
  { m with expected := m.expected.insert label }

/-- A message on the symbol under a cursor, with one label. -/
def expecting (c : Cursor σ) (label : String) : Message σ := (Message.on c).withExpected label

/-- The message with exactly one label. -/
def relabel (m : Message σ) (label : String) : Message σ :=
  { m with expected := .singleton label }

/-- The message on two failed alternatives. The one at the greater position is kept as it is;
at equal positions the first one takes over the labels of the second. -/
def merge (m k : Message σ) : Message σ :=
  match compare m.position k.position with
  | .lt => k
  | .gt => m
  | .eq => { m with expected := m.expected.union k.expected }

/-- Whether the failure was at the end of the input. -/
def isAtEnd (m : Message σ) : Bool := m.unexpected.isNone

variable [Symbol σ]

/-- The message as a sentence. -/
def render (m : Message σ) : String :=
  let found := match m.unexpected with
    | some a => Symbol.quoted a
    | none => "end of input"
  let wanted := if m.expected.isEmpty then "" else "; expected " ++ m.expected.render
  s!"position {m.position}: unexpected {found}{wanted}"

/-- The message field by field. -/
def describe (m : Message σ) : String :=
  let found := match m.unexpected with
    | some a => "Some(" ++ Symbol.quoted a ++ ")"
    | none => "None"
  let wanted := ", ".intercalate (m.expected.toList.map Text.quoteString)
  s!"Message \x7b position: {m.position}, unexpected: {found}, expected: \x7b{wanted}\x7d \x7d"

/-- The description of a parse that ended in this message. -/
def describeFailure (m : Message σ) : String :=
  s!"ParseFailure \x7b message: {m.describe} \x7d"

end Message

end ParserKit
