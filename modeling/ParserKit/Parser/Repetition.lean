import ParserKit.Parser.Basic

/-!
# Repetition

A repeated parser is run for as long as it consumes input. It stops at the first run that does
not, be it a success or a failure, and fails where a run fails after consumption.

The first run decides the tag of the whole. All later runs belong to the deferred reply, which
goes round a loop. A run that consumes moves the cursor forward, so the loop goes round at most
once more than there are symbols left; this number is its bound.

## Main definitions

* `Parser.repeatLoop`: the loop behind the deferred reply
* `Parser.repeatFrom`: the outcome of repeating a parser after some values
* `Parser.many`, `Parser.many1`, `Parser.sepBy1`
-/

namespace ParserKit.Parser

variable {σ α β : Type}

/-- Take the reply of a consumed run and go on from there; `values` are those read before, the
last one first. -/
def repeatLoop (item : Parser σ α) :
    Nat → Deferred Id (Reply σ α) → List α → Exec (Reply σ (List α))
  | 0, _, _ => Run.exhausted
  | bound + 1, reply, values => do
    match ← reply.take with
    | .error message => return .error message
    | .ok value rest =>
      match ← item.run rest with
      | .consumed next => repeatLoop item bound next (value :: values)
      | .empty _ => return .ok (value :: values).reverse rest

/-- Repeat `item` from `c`, behind the values read before. -/
def repeatFrom (item : Parser σ α) (c : Cursor σ) (values : List α) :
    Exec (Outcome Id σ (List α)) := do
  match ← item.run c with
  | .consumed reply => return .defer fun _ => repeatLoop item (c.left + 1) reply values.reverse
  | .empty _ => return .emptyOk values c

/-- Repeat a parser, any number of times. -/
def many (p : Parser σ α) : Parser σ (List α) := ⟨fun c => repeatFrom p c []⟩

/-- Repeat a parser, at least once. -/
def many1 (p : Parser σ α) : Parser σ (List α) where
  run c := do (← p.run c).andThen fun first rest => repeatFrom p rest [first]

/-- Repeat a parser at least once, with a separator between. A separator that consumed input
has to be followed by an item. -/
def sepBy1 (p : Parser σ α) (sep : Parser σ β) : Parser σ (List α) where
  run c := do (← p.run c).andThen fun first rest => repeatFrom (sep.seqRight p) rest [first]

end ParserKit.Parser
