import ParserKit.Fault

/-!
# Cursors

A cursor is a place in a sequence of symbols. Moving it gives a new cursor and leaves the old
one as it was, so a parser that failed can be followed by another one from the same place
without any restoring.

A cursor carries the symbols that are still to be read, and with them the proof that they are
the input without its first `position` symbols. Looking at the next symbol and moving by one
take constant time.

## Main definitions

* `Source`: a sequence of symbols with an identity of its own
* `Cursor`: a place in a source
* `Cursor.peek`, `Cursor.current`: the symbol under the cursor
* `Cursor.advance`, `Cursor.advanceBy`: cursors further along the same source
* `Cursor.same`: the same place of the same source
-/

namespace ParserKit

/-- The symbols of one input. Two inputs with equal symbols are told apart by `id`. -/
structure Source (σ : Type) where
  /-- The identity of the input. -/
  id : Nat
  /-- The symbols, in order. -/
  symbols : Array σ

/-- A place in a source. -/
structure Cursor (σ : Type) where
  /-- The input. -/
  source : Source σ
  /-- The number of symbols before the cursor. -/
  position : Nat
  /-- The symbols from the cursor to the end of the input. -/
  remaining : List σ
  /-- The remaining symbols are what the first `position` leave of the input. -/
  drop_eq : source.symbols.toList.drop position = remaining
  /-- A cursor never stands past the end. -/
  position_le : position ≤ source.symbols.size

namespace Cursor

variable {σ : Type}

/-- The cursor at the start of the input `id`. -/
def start (id : Nat) (symbols : Array σ) : Cursor σ where
  source := ⟨id, symbols⟩
  position := 0
  remaining := symbols.toList
  drop_eq := rfl
  position_le := Nat.zero_le _

/-- The number of symbols of the whole input. -/
def length (c : Cursor σ) : Nat := c.source.symbols.size

/-- The number of symbols from the cursor to the end. -/
def left (c : Cursor σ) : Nat := c.length - c.position

/-- Whether the input has no symbols at all. -/
def isEmpty (c : Cursor σ) : Bool := c.length == 0

/-- Whether no symbols are left. -/
def isAtEnd (c : Cursor σ) : Bool := c.remaining.isEmpty

/-- The symbol under the cursor, if there is one. -/
def peek (c : Cursor σ) : Option σ := c.remaining.head?

/-- The symbol under the cursor; a fault at the end. -/
def current (c : Cursor σ) : Except Fault σ :=
  match c.remaining with
  | [] => .error (.readAtEnd c.position)
  | a :: _ => .ok a

theorem length_remaining (c : Cursor σ) : c.remaining.length = c.left := by
  simp [← c.drop_eq, left, length]

/-- The cursor behind the symbol `a`, where `a` is the next symbol. -/
def step (c : Cursor σ) (a : σ) (rest : List σ) (h : c.remaining = a :: rest) : Cursor σ where
  source := c.source
  position := c.position + 1
  remaining := rest
  drop_eq := by rw [← List.drop_drop, c.drop_eq, h]; rfl
  position_le := by
    have := c.length_remaining
    simp only [h, List.length_cons, left, length] at this
    omega

/-- The cursor one symbol further; a fault at the end. -/
def advance (c : Cursor σ) : Except Fault (Cursor σ) :=
  match h : c.remaining with
  | [] => .error (.stepAtEnd c.position)
  | a :: rest => .ok (c.step a rest h)

/-- The cursor `count` symbols further; a fault if fewer are left. -/
def advanceBy (c : Cursor σ) (count : Nat) : Except Fault (Cursor σ) :=
  if h : count ≤ c.left then
    .ok {
      source := c.source
      position := c.position + count
      remaining := c.remaining.drop count
      drop_eq := by rw [← c.drop_eq, List.drop_drop]
      position_le := by
        have := c.position_le
        simp only [left, length] at h
        omega }
  else .error (.stepPastEnd count c.position c.length)

/-- Whether two cursors stand at the same place of the same input. Inputs are compared by
identity, not by content. -/
def same (c d : Cursor σ) : Bool := c.source.id == d.source.id && c.position == d.position

/-- A cursor as it is shown to a reader: its position and the length of its input. -/
def describe (c : Cursor σ) : String :=
  s!"State \x7b pos: {c.position}, len: {c.length} \x7d"

end Cursor

end ParserKit
