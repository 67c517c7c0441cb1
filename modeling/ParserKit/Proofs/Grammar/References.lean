import ParserKit.Proofs.Grammar.LeftCalls

/-!
# What references stand for

The parser of a grammar depends on what its references stand for, and on no other references. A
reference may stand for the grammar that is put in its place; then it stands for the parser of that
grammar.

Rules are *closed* if their definitions refer to rules with definitions only. A run of a grammar
over closed rules finds a definition for every reference that it comes to.

## Main definitions

* `Grammar.RefsIn P`: the references in a grammar are all in `P`
* `Rules.Closed`: the references in definitions have definitions

## Main results

* `Grammar.toParser_congr`: references that a grammar does not have do not count
* `Grammar.toParser_subst`: the parser of a grammar with others put in
-/

namespace ParserKit

variable {σ : Type} {ρ τ : Type → Type} {α : Type}

namespace Grammar

/-- All references in the grammar are in `P`, and so are those in the grammars behind its values. -/
def RefsIn (P : Reference ρ → Prop) : {α : Type} → Grammar σ ρ α → Prop
  | _, .retn _ => True
  | _, .retnWith _ => True
  | _, .fail => True
  | _, .satisfy _ => True
  | _, .eof => True
  | _, .scan _ => True
  | _, .raw _ => True
  | _, .bind p k => p.RefsIn P ∧ ∀ a, (k a).RefsIn P
  | _, .map _ p => p.RefsIn P
  | _, .seqRight p q => p.RefsIn P ∧ q.RefsIn P
  | _, .seqLeft p q => p.RefsIn P ∧ q.RefsIn P
  | _, .both p q => p.RefsIn P ∧ q.RefsIn P
  | _, .orElse p q => p.RefsIn P ∧ q.RefsIn P
  | _, .attempt p => p.RefsIn P
  | _, .label _ p => p.RefsIn P
  | _, .many p => p.RefsIn P
  | _, .many1 p => p.RefsIn P
  | _, .sepBy1 p sep => p.RefsIn P ∧ sep.RefsIn P
  | _, .delay make => (make ()).RefsIn P
  | _, .ref r => P ⟨_, r⟩

/-- What stands for a reference that a grammar does not have does not count. -/
theorem toParser_congr {P : Reference ρ → Prop} {env env' : {α : Type} → ρ α → Parser σ α}
    (henv : ∀ {α : Type} (r : ρ α), P ⟨α, r⟩ → env r = env' r) {g : Grammar σ ρ α}
    (hg : g.RefsIn P) : g.toParser env = g.toParser env' := by
  induction g with
  | retn | retnWith | fail | satisfy | eof | scan | raw => rfl
  | bind p k hp hk => simp only [toParser, hp hg.1, fun a => hk a (hg.2 a)]
  | map f p hp => simp only [toParser, hp hg]
  | seqRight p q hp hq => simp only [toParser, hp hg.1, hq hg.2]
  | seqLeft p q hp hq => simp only [toParser, hp hg.1, hq hg.2]
  | both p q hp hq => simp only [toParser, hp hg.1, hq hg.2]
  | orElse p q hp hq => simp only [toParser, hp hg.1, hq hg.2]
  | attempt p hp => simp only [toParser, hp hg]
  | label name p hp => simp only [toParser, hp hg]
  | many p hp => simp only [toParser, hp hg]
  | many1 p hp => simp only [toParser, hp hg]
  | sepBy1 p sep hp hsep => simp only [toParser, hp hg.1, hsep hg.2]
  | delay make hmake => simp only [toParser, hmake () hg]
  | ref r => exact henv r hg

/-- The parser of a grammar with others in the place of its references is the parser of the grammar
over theirs. -/
theorem toParser_subst (env : {α : Type} → ρ α → Grammar σ τ α)
    (env' : {α : Type} → τ α → Parser σ α) (g : Grammar σ ρ α) :
    (g.subst env).toParser env' = g.toParser fun r => (env r).toParser env' := by
  induction g with
  | retn | retnWith | fail | satisfy | eof | scan | raw | ref => rfl
  | bind p k hp hk => simp only [subst, toParser, hp, hk]
  | map f p hp => simp only [subst, toParser, hp]
  | seqRight p q hp hq => simp only [subst, toParser, hp, hq]
  | seqLeft p q hp hq => simp only [subst, toParser, hp, hq]
  | both p q hp hq => simp only [subst, toParser, hp, hq]
  | orElse p q hp hq => simp only [subst, toParser, hp, hq]
  | attempt p hp => simp only [subst, toParser, hp]
  | label name p hp => simp only [subst, toParser, hp]
  | many p hp => simp only [subst, toParser, hp]
  | many1 p hp => simp only [subst, toParser, hp]
  | sepBy1 p sep hp hsep => simp only [subst, toParser, hp, hsep]
  | delay make hmake => simp only [subst, toParser, hmake]

end Grammar

/-- The references in definitions have definitions. -/
def Rules.Closed (rules : Rules σ ρ) : Prop :=
  ∀ {α : Type} (r : ρ α) (g : Grammar σ ρ α), rules.find r = .known g → g.RefsIn rules.Defines

end ParserKit
