import ParserKit.Outcome

/-!
# Parsers

A parser is a function from a cursor to an outcome. Running it tells at once whether it
consumed input; a consumed reply is computed when somebody asks for it.

The functions here build parsers from parsers. Alternation tries its second parser only after a
failure without consumption, so a parser that has read a symbol is committed to what it began;
`attempt` takes the commitment back.

## Main definitions

* `Parser σ α`: parsers over symbols `σ` with values in `α`
* `Parser.retn`, `Parser.fail`, `Parser.satisfy`, `Parser.eof`, `Parser.scan`: leaves
* `Parser.bind`, `Parser.map`, `Parser.seqRight`, `Parser.seqLeft`, `Parser.both`: sequencing
* `Parser.orElse`, `Parser.attempt`, `Parser.label`: alternation and its messages
* `Matcher`: a search in the remaining input as a whole
-/

namespace ParserKit

/-- A parser from symbols `σ` to values `α`. -/
structure Parser (σ α : Type) where
  /-- Run the parser, leaving a consumed reply deferred. -/
  run : Cursor σ → Exec (Outcome Id σ α)

/-- A search in the remaining input: `find` gives the stretch of it that was found. -/
structure Matcher (σ : Type) where
  /-- What a failure expects. -/
  label : String
  /-- The stretch found in the remaining symbols. -/
  find : List σ → Option (List σ)
  /-- What is found occurs in what is searched. -/
  find_isInfix : ∀ {xs ys : List σ}, find xs = some ys → ys <:+: xs

/-- The label of a predicate that has no name. -/
def predicateLabel : String := "<predicate>"

/-- The label of the end of the input. -/
def eofLabel : String := "end of input"

namespace Parser

variable {σ α β γ : Type}

/-- Run a parser and take its reply. -/
def parse (p : Parser σ α) (c : Cursor σ) : Exec (Reply σ α) := do
  (← p.run c).takeReply

/-- Run a parser for its value alone; what it leaves unread is no failure. -/
def parseValue (p : Parser σ α) (c : Cursor σ) : Exec (Except (Message σ) α) :=
  Reply.toExcept <$> p.parse c

/-! ## Leaves -/

/-- Succeed with a value without consuming input. -/
def retn (a : α) : Parser σ α := ⟨fun c => pure (.emptyOk a c)⟩

/-- Succeed with a value that is built for each run. -/
def retnWith (make : Unit → α) : Parser σ α := ⟨fun c => pure (.emptyOk (make ()) c)⟩

/-- Fail without consuming input, expecting nothing. -/
def fail : Parser σ α := ⟨fun c => pure (.emptyError (.on c))⟩

/-- Read one symbol that the predicate accepts. -/
def satisfy (accepts : σ → Bool) : Parser σ σ where
  run c :=
    match c.peek with
    | some a =>
      if accepts a then do
        let rest ← Run.ofExcept c.advance
        return .consumedOk a rest
      else return .emptyError (.expecting c predicateLabel)
    | none => return .emptyError (.expecting c predicateLabel)

/-- Succeed at the end of the input only. -/
def eof : Parser σ Unit where
  run c :=
    if c.isAtEnd then return .emptyOk () c
    else return .emptyError (.expecting c eofLabel)

/-- Search the remaining input. The value is the stretch found, and the cursor moves by its
length; an empty stretch consumes nothing. -/
def scan (m : Matcher σ) : Parser σ (List σ) where
  run c :=
    match m.find c.remaining with
    | none => return .emptyError (.expecting c m.label)
    | some [] => return .emptyOk [] c
    | some (a :: found) => do
      let rest ← Run.ofExcept (c.advanceBy (found.length + 1))
      return .consumedOk (a :: found) rest

/-- The parser whose run has no end. -/
def diverge : Parser σ α := ⟨fun _ => Run.exhausted⟩

/-! ## Sequencing -/

/-- Run `p`, then the parser that `k` gives for its value. -/
def bind (p : Parser σ α) (k : α → Parser σ β) : Parser σ β where
  run c := do (← p.run c).andThen fun a rest => (k a).run rest

/-- Change the value. -/
def map (f : α → β) (p : Parser σ α) : Parser σ β where
  run c := do return (← p.run c).map f

/-- Run both and keep the second value. -/
def seqRight (p : Parser σ α) (q : Parser σ β) : Parser σ β where
  run c := do (← p.run c).andThen fun _ rest => q.run rest

/-- Run both and keep the first value. -/
def seqLeft (p : Parser σ α) (q : Parser σ β) : Parser σ α where
  run c := do
    (← p.run c).andThen fun a rest => do return (← q.run rest).map fun _ => a

/-- Run both and keep both values. -/
def both (p : Parser σ α) (q : Parser σ β) : Parser σ (α × β) where
  run c := do
    (← p.run c).andThen fun a rest => do return (← q.run rest).map fun b => (a, b)

/-! ## Alternation -/

/-- Run `p`; if it fails without consuming input, run `q` from the same place. When both fail
so, their messages are merged. -/
def orElse (p q : Parser σ α) : Parser σ α where
  run c := do
    match ← p.run c with
    | .empty (.error first) =>
      match ← q.run c with
      | .empty (.error second) => return .emptyError (first.merge second)
      | outcome => return outcome
    | outcome => return outcome

/-- Turn a failure after consumption into one without. The message keeps the place where the
parser failed. -/
def attempt (p : Parser σ α) : Parser σ α where
  run c := do
    match ← p.run c with
    | .consumed reply =>
      match ← reply.take with
      | .error message => return .emptyError message
      | .ok value rest => return .consumedOk value rest
    | outcome => return outcome

/-- Name what a failure without consumption expects. -/
def label (name : String) (p : Parser σ α) : Parser σ α where
  run c := do
    match ← p.run c with
    | .empty (.error message) => return .emptyError (message.relabel name)
    | outcome => return outcome

/-- A parser that is built when it is run. -/
def delay (make : Unit → Parser σ α) : Parser σ α := ⟨fun c => (make ()).run c⟩

end Parser

end ParserKit
