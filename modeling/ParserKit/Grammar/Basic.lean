import ParserKit.Parser.Derived

/-!
# Grammars

A grammar is a parser written down: an expression over the combinators, with references to
rules. Its meaning is a parser, given a parser for each rule. Statements about all parsers that
can be built from the combinators are statements about grammars.

The values of a grammar have any type, and the grammar behind `bind` may depend on the value
before it.

## Main definitions

* `Grammar σ ρ α`: grammars over symbols `σ` with values `α` and references `ρ`
* `Grammar.toParser`: the meaning of a grammar
* `Grammar.between`, `Grammar.optional`, `Grammar.choice`, …: grammars built from others

## Main results

* `Grammar.toParser_between`, `Grammar.toParser_choice`, …: their parsers are built alike
-/

namespace ParserKit

/-- Expressions over the combinators. A reference `r : ρ α` stands for a rule with values in
`α`. -/
inductive Grammar (σ : Type) (ρ : Type → Type) : Type → Type 1 where
  /-- Succeed with a value. -/
  | retn {α : Type} (a : α) : Grammar σ ρ α
  /-- Succeed with a value built for each run. -/
  | retnWith {α : Type} (make : Unit → α) : Grammar σ ρ α
  /-- Fail, expecting nothing. -/
  | fail {α : Type} : Grammar σ ρ α
  /-- Read a symbol that is accepted. -/
  | satisfy (accepts : σ → Bool) : Grammar σ ρ σ
  /-- Succeed at the end of the input. -/
  | eof : Grammar σ ρ Unit
  /-- Search the remaining input. -/
  | scan (m : Matcher σ) : Grammar σ ρ (List σ)
  /-- A parser made by other means. -/
  | raw {α : Type} (p : Parser σ α) : Grammar σ ρ α
  /-- Run a grammar, then the one chosen by its value. -/
  | bind {α β : Type} (p : Grammar σ ρ α) (k : α → Grammar σ ρ β) : Grammar σ ρ β
  /-- Change the value. -/
  | map {α β : Type} (f : α → β) (p : Grammar σ ρ α) : Grammar σ ρ β
  /-- Run both, keep the second value. -/
  | seqRight {α β : Type} (p : Grammar σ ρ α) (q : Grammar σ ρ β) : Grammar σ ρ β
  /-- Run both, keep the first value. -/
  | seqLeft {α β : Type} (p : Grammar σ ρ α) (q : Grammar σ ρ β) : Grammar σ ρ α
  /-- Run both, keep both values. -/
  | both {α β : Type} (p : Grammar σ ρ α) (q : Grammar σ ρ β) : Grammar σ ρ (α × β)
  /-- Try the first, then the second. -/
  | orElse {α : Type} (p q : Grammar σ ρ α) : Grammar σ ρ α
  /-- Fail without consumption. -/
  | attempt {α : Type} (p : Grammar σ ρ α) : Grammar σ ρ α
  /-- Name what is expected. -/
  | label {α : Type} (name : String) (p : Grammar σ ρ α) : Grammar σ ρ α
  /-- Any number of repetitions. -/
  | many {α : Type} (p : Grammar σ ρ α) : Grammar σ ρ (List α)
  /-- At least one repetition. -/
  | many1 {α : Type} (p : Grammar σ ρ α) : Grammar σ ρ (List α)
  /-- At least one repetition, with separators between. -/
  | sepBy1 {α β : Type} (p : Grammar σ ρ α) (sep : Grammar σ ρ β) : Grammar σ ρ (List α)
  /-- A grammar built when it is run. -/
  | delay {α : Type} (make : Unit → Grammar σ ρ α) : Grammar σ ρ α
  /-- A reference to a rule. -/
  | ref {α : Type} (r : ρ α) : Grammar σ ρ α

namespace Grammar

variable {σ : Type} {ρ : Type → Type} {α β γ : Type}

/-- The parser of a grammar, where `env` gives the parsers of the rules. -/
def toParser (env : {α : Type} → ρ α → Parser σ α) :
    {α : Type} → Grammar σ ρ α → Parser σ α
  | _, .retn a => .retn a
  | _, .retnWith make => .retnWith make
  | _, .fail => .fail
  | _, .satisfy accepts => .satisfy accepts
  | _, .eof => .eof
  | _, .scan m => .scan m
  | _, .raw p => p
  | _, .bind p k => .bind (p.toParser env) fun a => (k a).toParser env
  | _, .map f p => .map f (p.toParser env)
  | _, .seqRight p q => .seqRight (p.toParser env) (q.toParser env)
  | _, .seqLeft p q => .seqLeft (p.toParser env) (q.toParser env)
  | _, .both p q => .both (p.toParser env) (q.toParser env)
  | _, .orElse p q => .orElse (p.toParser env) (q.toParser env)
  | _, .attempt p => .attempt (p.toParser env)
  | _, .label name p => .label name (p.toParser env)
  | _, .many p => .many (p.toParser env)
  | _, .many1 p => .many1 (p.toParser env)
  | _, .sepBy1 p sep => .sepBy1 (p.toParser env) (sep.toParser env)
  | _, .delay make => .delay fun _ => (make ()).toParser env
  | _, .ref r => env r

/-! ## Grammars built from others -/

/-- `p` between `opening` and `closing`. -/
def between (opening : Grammar σ ρ β) (closing : Grammar σ ρ γ) (p : Grammar σ ρ α) :
    Grammar σ ρ α :=
  (opening.seqRight p).seqLeft closing

/-- The value of `p`, or `none` if `p` fails without consuming input. -/
def optional (p : Grammar σ ρ α) : Grammar σ ρ (Option α) :=
  (p.map some).orElse (retnWith fun _ => none)

/-- The value of `p`, or `default` if `p` fails without consuming input. -/
def option (default : α) (p : Grammar σ ρ α) : Grammar σ ρ α := p.orElse (retn default)

/-- The first of the alternatives that does not fail without consumption. -/
def choice : List (Grammar σ ρ α) → Grammar σ ρ α
  | [] => fail
  | p :: ps => ps.foldl orElse p

/-- Any number of repetitions, without their values. -/
def skipMany (p : Grammar σ ρ α) : Grammar σ ρ Unit :=
  ((p.map fun _ => ()).many).map fun _ => ()

/-- Any number of repetitions, with separators between. -/
def sepBy (p : Grammar σ ρ α) (sep : Grammar σ ρ β) : Grammar σ ρ (List α) :=
  (p.sepBy1 sep).orElse (retnWith fun _ => [])

/-- The grammar that never comes to an end. -/
def diverge : Grammar σ ρ α := raw .diverge

/-- `f` applied to the value `n` times, one at a time. -/
def mapTimes (f : α → α) (p : Grammar σ ρ α) : Nat → Grammar σ ρ α
  | 0 => p
  | n + 1 => (p.mapTimes f n).map f

/-- `n` times "then `p`" behind `p`, grouped to the left. -/
def thenLeft (p : Grammar σ ρ α) : Nat → Grammar σ ρ α
  | 0 => p
  | n + 1 => (p.thenLeft n).seqRight p

/-- `n` times "`p` then" before `p`, grouped to the right. -/
def thenRight (p : Grammar σ ρ α) : Nat → Grammar σ ρ α
  | 0 => p
  | n + 1 => p.seqRight (p.thenRight n)

/-! ## Their parsers -/

section ToParser

variable (env : {α : Type} → ρ α → Parser σ α)

@[simp] theorem toParser_between (opening : Grammar σ ρ β) (closing : Grammar σ ρ γ)
    (p : Grammar σ ρ α) :
    (between opening closing p).toParser env =
      .between (opening.toParser env) (closing.toParser env) (p.toParser env) :=
  rfl

@[simp] theorem toParser_optional (p : Grammar σ ρ α) :
    (optional p).toParser env = (p.toParser env).optional :=
  rfl

@[simp] theorem toParser_option (default : α) (p : Grammar σ ρ α) :
    (option default p).toParser env = .option default (p.toParser env) :=
  rfl

@[simp] theorem toParser_choice (ps : List (Grammar σ ρ α)) :
    (choice ps).toParser env = .choice (ps.map (toParser env)) := by
  cases ps with
  | nil => rfl
  | cons p ps =>
    have key (p : Grammar σ ρ α) :
        (ps.foldl orElse p).toParser env =
          (ps.map (toParser env)).foldl Parser.orElse (p.toParser env) := by
      induction ps generalizing p with
      | nil => rfl
      | cons q ps ih => exact ih (p.orElse q)
    exact key p

@[simp] theorem toParser_skipMany (p : Grammar σ ρ α) :
    (skipMany p).toParser env = (p.toParser env).skipMany :=
  rfl

@[simp] theorem toParser_sepBy (p : Grammar σ ρ α) (sep : Grammar σ ρ β) :
    (sepBy p sep).toParser env = (p.toParser env).sepBy (sep.toParser env) :=
  rfl

@[simp] theorem toParser_mapTimes (f : α → α) (p : Grammar σ ρ α) (n : Nat) :
    (p.mapTimes f n).toParser env = (p.toParser env).mapTimes f n := by
  induction n with
  | zero => rfl
  | succ n ih => exact congrArg (Parser.map f) ih

@[simp] theorem toParser_thenLeft (p : Grammar σ ρ α) (n : Nat) :
    (p.thenLeft n).toParser env = (p.toParser env).thenLeft n := by
  induction n with
  | zero => rfl
  | succ n ih => exact congrArg (Parser.seqRight · (p.toParser env)) ih

@[simp] theorem toParser_thenRight (p : Grammar σ ρ α) (n : Nat) :
    (p.thenRight n).toParser env = (p.toParser env).thenRight n := by
  induction n with
  | zero => rfl
  | succ n ih => exact congrArg (Parser.seqRight (p.toParser env)) ih

end ToParser

end Grammar

end ParserKit
