import ParserKit.Parser.Basic

/-!
# Parsers that move the cursor themselves

Parsers that do not ask what they read. They keep to the rule that a consumed success is further
along, or fault; `takeLater` and the others differ in when they do.

## Main definitions

* `Parser.take`, `Parser.takeLater`: pass over a number of symbols
* `Parser.next`, `Parser.nextBlind`: pass over one symbol
-/

namespace ParserKit.Parser

variable {σ : Type}

/-- Pass over `count` symbols. Too few symbols are a fault of the run. -/
def take (count : Nat) : Parser σ Nat where
  run c :=
    if count = 0 then return .emptyOk 0 c
    else do
      let rest ← Run.ofExcept (c.advanceBy count)
      return .consumedOk count rest

/-- Pass over `count` symbols when the reply is asked for. Too few symbols are a fault of the
reply. -/
def takeLater (count : Nat) : Parser σ Nat where
  run c := return .defer fun _ => do
    let rest ← Run.ofExcept (c.advanceBy count)
    return .ok count rest

/-- The next symbol; a fault at the end. -/
def next : Parser σ σ where
  run c := do
    let a ← Run.ofExcept c.current
    let rest ← Run.ofExcept c.advance
    return .consumedOk a rest

/-- Pass over the next symbol; a fault at the end. -/
def nextBlind : Parser σ Unit where
  run c := do
    let rest ← Run.ofExcept c.advance
    return .consumedOk () rest

end ParserKit.Parser
