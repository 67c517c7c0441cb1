import ParserKit.Grammar.Basic

/-!
# Unfolding

A reference can be read in two ways: as a call of the rule, or as a place where the definition
of the rule is put, built anew at each use. Unfolding does the second. Since a rule may refer to
itself the definitions are put in only as deep as is asked for; below that depth stands a
grammar without an end. The definitions are built when they are run, so a great depth costs
nothing that is not used.

## Main definitions

* `Grammar.subst`: a grammar in the place of each reference
* `Grammar.unfold`: definitions in the place of references, level by level
-/

namespace ParserKit.Grammar

variable {σ : Type} {ρ τ : Type → Type}

/-- Put a grammar in the place of each reference. -/
def subst (env : {α : Type} → ρ α → Grammar σ τ α) :
    {α : Type} → Grammar σ ρ α → Grammar σ τ α
  | _, .retn a => .retn a
  | _, .retnWith make => .retnWith make
  | _, .fail => .fail
  | _, .satisfy accepts => .satisfy accepts
  | _, .eof => .eof
  | _, .scan m => .scan m
  | _, .raw p => .raw p
  | _, .bind p k => .bind (p.subst env) fun a => (k a).subst env
  | _, .map f p => .map f (p.subst env)
  | _, .seqRight p q => .seqRight (p.subst env) (q.subst env)
  | _, .seqLeft p q => .seqLeft (p.subst env) (q.subst env)
  | _, .both p q => .both (p.subst env) (q.subst env)
  | _, .orElse p q => .orElse (p.subst env) (q.subst env)
  | _, .attempt p => .attempt (p.subst env)
  | _, .label name p => .label name (p.subst env)
  | _, .many p => .many (p.subst env)
  | _, .many1 p => .many1 (p.subst env)
  | _, .sepBy1 p sep => .sepBy1 (p.subst env) (sep.subst env)
  | _, .delay make => .delay fun _ => (make ()).subst env
  | _, .ref r => env r

/-- The grammar that stands for a reference: another reference, or a definition whose own
references are unfolded in turn, `depth` levels deep. -/
def unfold (expand : {α : Type} → ρ α → τ α ⊕ Grammar σ ρ α) :
    Nat → {α : Type} → ρ α → Grammar σ τ α
  | 0, _, r =>
    match expand r with
    | .inl t => .ref t
    | .inr _ => .diverge
  | depth + 1, _, r =>
    match expand r with
    | .inl t => .ref t
    | .inr g => .delay fun _ => g.subst fun r' => unfold expand depth r'

end ParserKit.Grammar
