import ParserKit.Parser.Repetition

/-!
# Parsers built from others

Combinations that occur often enough to have names of their own.

## Main definitions

* `Parser.between`, `Parser.optional`, `Parser.option`, `Parser.choice`
* `Parser.skipMany`, `Parser.sepBy`
* `Parser.mapTimes`, `Parser.thenLeft`, `Parser.thenRight`: the same over and over
-/

namespace ParserKit.Parser

variable {σ α β γ : Type}

/-- `p` between `opening` and `closing`. -/
def between (opening : Parser σ β) (closing : Parser σ γ) (p : Parser σ α) : Parser σ α :=
  (opening.seqRight p).seqLeft closing

/-- The value of `p`, or `none` if `p` fails without consuming input. -/
def optional (p : Parser σ α) : Parser σ (Option α) :=
  (p.map some).orElse (retnWith fun _ => none)

/-- The value of `p`, or `default` if `p` fails without consuming input. -/
def option (default : α) (p : Parser σ α) : Parser σ α := p.orElse (retn default)

/-- The first of the alternatives that does not fail without consumption. -/
def choice : List (Parser σ α) → Parser σ α
  | [] => fail
  | p :: ps => ps.foldl orElse p

/-- Any number of repetitions, without their values. -/
def skipMany (p : Parser σ α) : Parser σ Unit := ((p.map fun _ => ()).many).map fun _ => ()

/-- Any number of repetitions, with separators between. -/
def sepBy (p : Parser σ α) (sep : Parser σ β) : Parser σ (List α) :=
  (p.sepBy1 sep).orElse (retnWith fun _ => [])

/-- `f` applied to the value `n` times, one at a time. -/
def mapTimes (f : α → α) (p : Parser σ α) : Nat → Parser σ α
  | 0 => p
  | n + 1 => (p.mapTimes f n).map f

/-- `n` times "then `p`" behind `p`, grouped to the left. -/
def thenLeft (p : Parser σ α) : Nat → Parser σ α
  | 0 => p
  | n + 1 => (p.thenLeft n).seqRight p

/-- `n` times "`p` then" before `p`, grouped to the right. -/
def thenRight (p : Parser σ α) : Nat → Parser σ α
  | 0 => p
  | n + 1 => p.seqRight (p.thenRight n)

end ParserKit.Parser
