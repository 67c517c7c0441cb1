import ParserKit.Blueprint.Kind
import ParserKit.Cursor.TextIndex

/-!
# A pool of cursors

Cursors are made, moved and copied one step at a time, and every one stays in the pool. A move
that faults adds nothing, and a question to a cursor leaves the cursors as they are.

## Main definitions

* `CursorPool`: the cursors so far
* `CursorMove`, `CursorPool.move`: the ways to make a cursor, and what comes of them
* `CursorStep`, `CursorQuery`: moves, and questions to a cursor
* `CursorPool.step`: what a step does, and its answer
-/

namespace ParserKit

/-- The cursors so far, and how many inputs have been made. -/
structure CursorPool (σ : Type) where
  /-- The cursors, in the order in which they were made. -/
  cursors : Array (Cursor σ) := #[]
  /-- The number of inputs. -/
  inputs : Nat := 0
  /-- The texts of inputs that have been asked for. -/
  texts : TextIndexes := {}

/-- The ways to make a cursor. -/
inductive CursorMove (σ : Type) where
  /-- A cursor at the start of a new input. -/
  | start (symbols : Array σ)
  /-- A cursor one symbol further. -/
  | advance (i : Nat)
  /-- A cursor some symbols further. -/
  | advanceBy (i count : Nat)
  /-- A copy of a cursor. -/
  | copy (i : Nat)

/-- Questions to a cursor. -/
inductive CursorQuery where
  /-- The symbol under it; a fault at the end. -/
  | current
  /-- The symbol under it, if there is one. -/
  | peek
  /-- Its position. -/
  | position
  /-- The length of its input. -/
  | length
  /-- Whether its input is empty. -/
  | isEmpty
  /-- Whether it is at the end. -/
  | isAtEnd
  /-- The symbols from it on. -/
  | remaining
  /-- The characters from it on, as a string. -/
  | remainingText
  /-- Its description. -/
  | describe
deriving DecidableEq

/-- A step in the life of a pool. -/
inductive CursorStep (k : Kind) where
  /-- Make a cursor. -/
  | move (m : CursorMove k.Carrier)
  /-- A question to a cursor. -/
  | ask (query : CursorQuery) (i : Nat)
  /-- Whether two cursors stand at the same place of the same input. -/
  | same (i j : Nat)

/-- The answer to a step. -/
inductive CursorAnswer (σ : Type) where
  /-- A new cursor: its number in the pool, and its position. -/
  | made (register position : Nat)
  /-- The step faulted. -/
  | fault (f : Fault)
  /-- There is no cursor of that number. -/
  | missing
  /-- A symbol, or the end of the input. -/
  | symbol (a : Option σ)
  /-- A number. -/
  | number (n : Nat)
  /-- A truth value. -/
  | flag (b : Bool)
  /-- A list of symbols. -/
  | symbols (as : List σ)
  /-- A text. -/
  | text (s : String)

namespace CursorPool

section Moves

variable {σ : Type}

/-- Put a cursor into the pool. -/
def add (p : CursorPool σ) (c : Cursor σ) : CursorPool σ × CursorAnswer σ :=
  ({ p with cursors := p.cursors.push c }, .made p.cursors.size c.position)

/-- Put a cursor into the pool, unless making it faulted. -/
def addExcept (p : CursorPool σ) : Except Fault (Cursor σ) → CursorPool σ × CursorAnswer σ
  | .ok c => p.add c
  | .error f => (p, .fault f)

/-- What a move does to the pool, and its answer. -/
def move (p : CursorPool σ) : CursorMove σ → CursorPool σ × CursorAnswer σ
  | .start symbols =>
    { p with inputs := p.inputs + 1 }.add (Cursor.start p.inputs symbols)
  | .advance i =>
    match p.cursors[i]? with
    | some c => p.addExcept c.advance
    | none => (p, .missing)
  | .advanceBy i count =>
    match p.cursors[i]? with
    | some c => p.addExcept (c.advanceBy count)
    | none => (p, .missing)
  | .copy i =>
    match p.cursors[i]? with
    | some c => p.add c
    | none => (p, .missing)

/-- The answer of a cursor to a question. Its text is not told here, as the pool keeps it. -/
def answer (c : Cursor σ) : CursorQuery → CursorAnswer σ
  | .current =>
    match c.current with
    | .ok a => .symbol (some a)
    | .error f => .fault f
  | .peek => .symbol c.peek
  | .position => .number c.position
  | .length => .number c.length
  | .isEmpty => .flag c.isEmpty
  | .isAtEnd => .flag c.isAtEnd
  | .remaining => .symbols c.remaining
  | .remainingText => .missing
  | .describe => .text c.describe

end Moves

/-- The text from a cursor on, which the pool keeps from then on. -/
def tellText (p : CursorPool Char) (c : Cursor Char) : CursorPool Char × CursorAnswer Char :=
  let (texts, text) := c.readText p.texts
  ({ p with texts }, text.elim .missing .text)

/-- What a question to a cursor does to the pool, and its answer. Only characters have a text. -/
def tell : {k : Kind} → CursorPool k.Carrier → Cursor k.Carrier → CursorQuery →
    CursorPool k.Carrier × CursorAnswer k.Carrier
  | .char, p, c, .remainingText => p.tellText c
  | _, p, c, query => (p, answer c query)

variable {k : Kind}

/-- What a step does to the pool, and its answer. -/
def step (p : CursorPool k.Carrier) :
    CursorStep k → CursorPool k.Carrier × CursorAnswer k.Carrier
  | .move m => p.move m
  | .ask query i =>
    match p.cursors[i]? with
    | some c => p.tell c query
    | none => (p, .missing)
  | .same i j =>
    match p.cursors[i]?, p.cursors[j]? with
    | some c, some d => (p, .flag (c.same d))
    | _, _ => (p, .missing)

end CursorPool

end ParserKit
