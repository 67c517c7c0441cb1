import ParserKit.Grammar.Basic

/-!
# Rules

Grammars refer to rules, and rules are grammars that refer to rules in turn. Running a
reference looks up the rule and runs its definition; a rule without a definition, or one that
has been given up, is a fault.

Calls of rules nest. Along a chain of nested calls the position never goes back, and a rule
that is called again at the position where it is already running would go on for ever. So a
chain that comes to an end holds each rule at most once for each position, and the number of
rules times the number of positions bounds its length. `Rules.parser` runs with this bound.

## Main definitions

* `Definition`: what a reference finds
* `Rules σ ρ`: the definitions of the references `ρ`
* `Rules.call`, `Rules.parser`: running references and grammars
-/

namespace ParserKit

/-- What a reference to a rule finds. -/
inductive Definition (γ : Type 1) where
  /-- The rule has no definition yet. -/
  | unassigned
  /-- The rule has been given up. -/
  | dropped
  /-- The definition of the rule. -/
  | known (definition : γ)

/-- A system of rules: the definition of each reference. -/
structure Rules (σ : Type) (ρ : Type → Type) where
  /-- The number of rules. -/
  count : Nat
  /-- What a reference finds. -/
  find : {α : Type} → ρ α → Definition (Grammar σ ρ α)

namespace Rules

variable {σ : Type} {ρ : Type → Type}

/-- Run a reference, where at most `depth` calls nest. -/
def call (rules : Rules σ ρ) : Nat → {α : Type} → ρ α → Parser σ α
  | 0, _, _ => .diverge
  | depth + 1, _, r => ⟨fun c =>
    match rules.find r with
    | .unassigned => Run.fault (.unassigned c.position)
    | .dropped => Run.fault (.dropped c.position)
    | .known g => (g.toParser fun r' => rules.call depth r').run c⟩

/-- How deep calls can nest from a cursor on without going round in a circle. -/
def depthFrom (rules : Rules σ ρ) (c : Cursor σ) : Nat := rules.count * (c.left + 1) + 1

/-- The parser of a grammar over the rules. -/
def parser (rules : Rules σ ρ) {α : Type} (g : Grammar σ ρ α) : Parser σ α :=
  ⟨fun c => (g.toParser fun r => rules.call (rules.depthFrom c) r).run c⟩

end Rules

end ParserKit
