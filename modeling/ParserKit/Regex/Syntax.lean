import ParserKit.Regex.Class

/-!
# Regular expressions

The expressions behind patterns. Alternatives and repetitions have an order of preference: the
first alternative before the second, a greedy repetition as often as possible and a lazy one as
seldom as possible.

## Main definitions

* `Look`, `Look.holds`: conditions on the place between two characters
* `Expr`: regular expressions
* `Expr.isAnchored`: matches are at the start of the text only
* `Expr.cost`: an estimate of the memory that an expression takes
-/

namespace ParserKit.Regex

/-- The conditions on word characters before and behind a place. -/
inductive WordLook where
  /-- A word begins or ends. -/
  | boundary
  /-- No word begins or ends. -/
  | interior
  /-- A word begins. -/
  | start
  /-- A word ends. -/
  | finish
  /-- No word character stands before. -/
  | startHalf
  /-- No word character stands behind. -/
  | finishHalf
deriving DecidableEq, Repr

/-- A condition on a place in the text. -/
inductive Look where
  /-- The start of the text. -/
  | textStart
  /-- The end of the text. -/
  | textEnd
  /-- The start of a line. -/
  | lineStart
  /-- The end of a line. -/
  | lineEnd
  /-- The start of a line, where a carriage return ends a line too. -/
  | lineStartCr
  /-- The end of a line, where a carriage return ends a line too. -/
  | lineEndCr
  /-- A condition on word characters, of all scripts or of the ASCII range. -/
  | word (look : WordLook) (ascii : Bool)
deriving DecidableEq, Repr

/-- The characters beside a place in the text. -/
structure Context where
  /-- The character before. -/
  before : Option Char
  /-- The character behind. -/
  behind : Option Char

/-- Whether a word condition holds. -/
def WordLook.holds (before behind : Bool) : WordLook → Bool
  | .boundary => before != behind
  | .interior => before == behind
  | .start => !before && behind
  | .finish => before && !behind
  | .startHalf => !before
  | .finishHalf => !behind

/-- Whether a condition holds between two characters. -/
def Look.holds (ctx : Context) : Look → Bool
  | .textStart => ctx.before.isNone
  | .textEnd => ctx.behind.isNone
  | .lineStart => ctx.before.isNone || ctx.before == some '\n'
  | .lineEnd => ctx.behind.isNone || ctx.behind == some '\n'
  | .lineStartCr =>
    ctx.before.isNone || ctx.before == some '\n' ||
      (ctx.before == some '\r' && ctx.behind != some '\n')
  | .lineEndCr =>
    ctx.behind.isNone || ctx.behind == some '\r' ||
      (ctx.behind == some '\n' && ctx.before != some '\r')
  | .word look ascii =>
    let isWord (c : Option Char) : Bool :=
      c.any (if ascii then asciiWord else wordSet).contains
    look.holds (isWord ctx.before) (isWord ctx.behind)

/-- Regular expressions. -/
inductive Expr where
  /-- The empty text. -/
  | empty
  /-- A character of a set. -/
  | set (s : CharSet)
  /-- The empty text, where a condition holds. -/
  | look (l : Look)
  /-- One after the other. -/
  | concat (a b : Expr)
  /-- The first, or else the second. -/
  | alternate (a b : Expr)
  /-- From `min` to `max` times; without `max`, as often as one likes. -/
  | rep (e : Expr) (min : Nat) (max : Option Nat) (greedy : Bool)
deriving Repr

namespace Expr

/-- Whether the expression can match the empty text, conditions aside. -/
def isNullable : Expr → Bool
  | .empty => true
  | .set _ => false
  | .look _ => true
  | .concat a b => a.isNullable && b.isNullable
  | .alternate a b => a.isNullable || b.isNullable
  | .rep e min _ _ => min == 0 || e.isNullable

/-- Whether the expression matches the empty text only. -/
def isWidthless : Expr → Bool
  | .empty => true
  | .set _ => false
  | .look _ => true
  | .concat a b => a.isWidthless && b.isWidthless
  | .alternate a b => a.isWidthless && b.isWidthless
  | .rep e _ max _ => max == some 0 || e.isWidthless

/-- Whether every match has to be at the start of the text. -/
def isAnchored : Expr → Bool
  | .look .textStart => true
  | .concat a b => a.isAnchored || (a.isWidthless && b.isAnchored)
  | .alternate a b => a.isAnchored && b.isAnchored
  | .rep e min _ _ => min != 0 && e.isAnchored
  | _ => false

/-- An estimate of the memory that the automaton of the expression takes, in bytes. A state
takes 32 bytes, and a character as many states as it has bytes. -/
def cost : Expr → Nat
  | .empty => 32
  | .set ⟨[(lo, hi)]⟩ => if lo = hi then 32 * (Char.ofNat lo).utf8Size else 64
  | .set s => if s.isAscii then 32 + 8 * s.ranges.length else 64 * s.ranges.length
  | .look _ => 32
  | .concat a b => a.cost + b.cost
  | .alternate a b => a.cost + b.cost + 40
  | .rep e min max _ =>
    if e.isWidthless then e.cost + 40
    else match max with
      | none => Nat.max min 1 * e.cost + 40
      | some max => min * e.cost + (max - min) * (e.cost + 40)

end Expr

end ParserKit.Regex
