import ParserKit.Proofs.Grammar.References
import ParserKit.Proofs.Parser.Lockstep

/-!
# Parsers made by other means

A grammar may contain parsers that are not made of combinators. Nothing is known about such a
parser but what is asked of it, so a statement about all grammars over parsers with a property `P`
says that a relation is kept by the combinators and holds of each parser in `P` and itself.

`Grammar.Parametric P` is what such a grammar has in common with one that is made of combinators: no
relation of this kind tells its parser apart from itself, as long as the references are related. It
is a property of what the grammar stands for, and it is all that is needed of a definition in
inductions on the depth of calls.

## Main definitions

* `Grammar.Parametric P`, `Rules.Parametric P`: related by every relation that the combinators keep
  and the parsers in `P` respect

## Main results

* `Grammar.Within.parametric`: grammars over the combinators alone are parametric
* `Grammar.Parametric.bind`, `Grammar.Parametric.orElse`, …: so are grammars over parametric parts
* `Rules.Parametric.parsers_call`: links relate calls at each depth
-/

namespace ParserKit

variable {σ : Type} {ρ : Type → Type} {α : Type} {P : {α : Type} → Parser σ α → Prop}

/-- The relation is kept by the combinators, and each parser in `P` is related to itself. -/
structure CompatibleOver (P : {α : Type} → Parser σ α → Prop)
    (R : {α : Type} → Parser σ α → Parser σ α → Prop) : Prop where
  compatible : Compatible (· ≠ .raw) (fun _ => False) (fun _ => False) R
  made : ∀ {α : Type} (p : Parser σ α), P p → R p p

/-- Where the references are related, so is what the grammar stands for, by every relation that the
combinators keep and the parsers in `P` respect. -/
def Grammar.Parametric (P : {α : Type} → Parser σ α → Prop) (g : Grammar σ ρ α) : Prop :=
  ∀ (R : {α : Type} → Parser σ α → Parser σ α → Prop), CompatibleOver P R →
    ∀ env env' : {α : Type} → ρ α → Parser σ α, (∀ {α : Type} (r : ρ α), R (env r) (env' r)) →
      R (g.toParser env) (g.toParser env')

/-- The definitions of the rules are parametric. -/
def Rules.Parametric (P : {α : Type} → Parser σ α → Prop) (rules : Rules σ ρ) : Prop :=
  ∀ {α : Type} (r : ρ α) (g : Grammar σ ρ α), rules.find r = .known g → g.Parametric P

/-- A grammar over the combinators alone is parametric, whatever parsers made by other means have to
respect. -/
theorem Grammar.Within.parametric {g : Grammar σ ρ α} (hg : g.Plain) : g.Parametric P :=
  fun _ hR _ _ henv => hR.compatible.toParser henv (.refl g) hg

theorem Rules.Within.parametric {rules : Rules σ ρ} (hrules : rules.Plain) :
    rules.Parametric P :=
  fun r g hg => (hrules r g hg).parametric

/-! ## Grammars over parametric parts -/

namespace Grammar.Parametric

variable {β : Type} {p q : Grammar σ ρ α} {sep : Grammar σ ρ β} {k : α → Grammar σ ρ β}

/-- Only a raw parser has something to show. -/
theorem raw {p : Parser σ α} (hp : P p) : (Grammar.raw p : Grammar σ ρ α).Parametric P :=
  fun _ hR _ _ _ => hR.made p hp

theorem ref (r : ρ α) : (Grammar.ref r : Grammar σ ρ α).Parametric P :=
  fun _ _ _ _ henv => henv r

theorem bind (hp : p.Parametric P) (hk : ∀ a, (k a).Parametric P) : (p.bind k).Parametric P :=
  fun R hR env env' henv =>
    hR.compatible.bind (hp R hR env env' henv) fun a => hk a R hR env env' henv

theorem map (f : α → β) (hp : p.Parametric P) : (p.map f).Parametric P :=
  fun R hR env env' henv => hR.compatible.map f (hp R hR env env' henv)

theorem seqRight (hp : p.Parametric P) (hsep : sep.Parametric P) :
    (p.seqRight sep).Parametric P :=
  bind hp fun _ => hsep

theorem seqLeft (hp : p.Parametric P) (hsep : sep.Parametric P) :
    (p.seqLeft sep).Parametric P :=
  bind hp fun a => map (fun _ => a) hsep

theorem both (hp : p.Parametric P) (hsep : sep.Parametric P) : (p.both sep).Parametric P :=
  bind hp fun a => map (fun b => (a, b)) hsep

theorem orElse (hp : p.Parametric P) (hq : q.Parametric P) : (p.orElse q).Parametric P :=
  fun R hR env env' henv =>
    hR.compatible.orElse (hp R hR env env' henv) (hq R hR env env' henv)

theorem attempt (hp : p.Parametric P) : p.attempt.Parametric P :=
  fun R hR env env' henv => hR.compatible.attempt nofun (hp R hR env env' henv)

theorem label (name : String) (hp : p.Parametric P) : (p.label name).Parametric P :=
  fun R hR env env' henv => hR.compatible.label name (hp R hR env env' henv)

theorem many (hp : p.Parametric P) : p.many.Parametric P :=
  fun R hR env env' henv => hR.compatible.repeatBehind [] (hp R hR env env' henv)

theorem many1 (hp : p.Parametric P) : p.many1.Parametric P :=
  fun R hR env env' henv => hR.compatible.bind (hp R hR env env' henv) fun a =>
    hR.compatible.repeatBehind [a] (hp R hR env env' henv)

theorem sepBy1 (hp : p.Parametric P) (hsep : sep.Parametric P) : (p.sepBy1 sep).Parametric P :=
  fun R hR env env' henv => hR.compatible.bind (hp R hR env env' henv) fun a =>
    hR.compatible.repeatBehind [a] (bind hsep (fun _ => hp) R hR env env' henv)

theorem between {opening : Grammar σ ρ β} (hopening : opening.Parametric P)
    (hclosing : sep.Parametric P) (hp : p.Parametric P) :
    (Grammar.between opening sep p).Parametric P :=
  (hopening.seqRight hp).seqLeft hclosing

theorem optional (hp : p.Parametric P) : (Grammar.optional p).Parametric P :=
  (hp.map some).orElse (Grammar.Within.parametric trivial)

theorem option (default : α) (hp : p.Parametric P) : (Grammar.option default p).Parametric P :=
  hp.orElse (Grammar.Within.parametric trivial)

theorem skipMany (hp : p.Parametric P) : (Grammar.skipMany p).Parametric P :=
  ((hp.map fun _ => ()).many).map fun _ => ()

theorem sepBy (hp : p.Parametric P) (hsep : sep.Parametric P) :
    (Grammar.sepBy p sep).Parametric P :=
  (hp.sepBy1 hsep).orElse (Grammar.Within.parametric trivial)

/-- Alternatives are joined from the left, so a choice is parametric with all that were joined
before. -/
theorem choice {ps : List (Grammar σ ρ α)} (h : ∀ p ∈ ps, p.Parametric P) :
    (Grammar.choice ps).Parametric P := by
  cases ps with
  | nil => exact Grammar.Within.parametric trivial
  | cons p ps =>
    have key (p : Grammar σ ρ α) (hp : p.Parametric P) (hps : ∀ q ∈ ps, q.Parametric P) :
        (ps.foldl Grammar.orElse p).Parametric P := by
      clear h
      induction ps generalizing p with
      | nil => exact hp
      | cons q ps ih =>
        obtain ⟨hq, hps⟩ := List.forall_mem_cons.1 hps
        exact ih _ (hp.orElse hq) hps
    obtain ⟨hp, hps⟩ := List.forall_mem_cons.1 h
    exact key p hp hps

theorem mapTimes (f : α → α) (hp : p.Parametric P) (n : Nat) :
    (p.mapTimes f n).Parametric P := by
  induction n with
  | zero => exact hp
  | succ n ih => exact ih.map f

theorem thenLeft (hp : p.Parametric P) (n : Nat) : (p.thenLeft n).Parametric P := by
  induction n with
  | zero => exact hp
  | succ n ih => exact ih.seqRight hp

theorem thenRight (hp : p.Parametric P) (n : Nat) : (p.thenRight n).Parametric P := by
  induction n with
  | zero => exact hp
  | succ n ih => exact hp.seqRight ih

section Unfold

variable {τ : Type → Type}

/-- What is put in place of the references has to be parametric as well. -/
theorem subst {env : {α : Type} → ρ α → Grammar σ τ α}
    (henv : ∀ {α : Type} (r : ρ α), (env r).Parametric P) {g : Grammar σ ρ α}
    (hg : g.Parametric P) : (g.subst env).Parametric P := by
  intro R hR env' env'' h
  rw [toParser_subst, toParser_subst]
  exact hg R hR _ _ fun r => henv r R hR env' env'' h

/-- Definitions that are put in place are parametric, whatever their depth. -/
theorem unfold {expand : {α : Type} → ρ α → τ α ⊕ Grammar σ ρ α}
    (h : ∀ {α : Type} (r : ρ α) (g : Grammar σ ρ α), expand r = .inr g → g.Parametric P)
    (depth : Nat) (r : ρ α) : (Grammar.unfold expand depth r).Parametric P := by
  induction depth generalizing α with
  | zero =>
    unfold Grammar.unfold
    split
    · exact ref _
    · -- what lies below the depth is the grammar without an end
      exact Grammar.Within.parametric (.inr rfl)
  | succ depth ih =>
    unfold Grammar.unfold
    split
    · exact ref _
    · next g hg => exact subst (fun r' => ih r') (h r g hg)

end Unfold

end Grammar.Parametric

/-! ## Calls -/

namespace Link

/-- A deep link is kept by the combinators. -/
theorem compatibleOver {L : Link σ} (hdeep : L.deep)
    (hP : ∀ {α : Type} (p : Parser σ α), P p → L.Parsers p p) :
    CompatibleOver P fun {_} (p q : Parser σ _) => L.Parsers p q where
  compatible := L.compatible (not_not_intro rfl) (fun _ => hdeep) fun _ => hdeep
  made := hP

end Link

/-- A deep link that the parsers in `P` respect relates calls at each depth, and at a greater
depth if the first run may end early. -/
theorem Rules.Parametric.parsers_call {rules : Rules σ ρ} (hrules : rules.Parametric P)
    {L : Link σ} (hdeep : L.deep) (hP : ∀ {α : Type} (p : Parser σ α), P p → L.Parsers p p)
    {n m : Nat} (hnm : n = m ∨ L.early ∧ n ≤ m) (r : ρ α) :
    L.Parsers (rules.call n r) (rules.call m r) :=
  Link.parsers_call_of (fun r g hg => hrules r g hg _ (Link.compatibleOver hdeep hP)) hnm r

end ParserKit
