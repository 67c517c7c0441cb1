import Mathlib.Logic.Relation
import ParserKit.Proofs.Grammar.Counting
import ParserKit.Proofs.Grammar.Forms

/-!
# Left calls

A rule calls another one *on the left* if it may run it before anything has been consumed. A rule
that leads back to itself in this way would go round in a circle at one place. Which parts of a
definition come before any consumption depends on which parts may succeed without it: a grammar is
*nullable* if it may, by the least such notion.

If no rule leads back to itself, the rules that one leads to by left calls become fewer with each
call. Their number is the rank of the rule. References that find the same definition have the same
left calls, so the rank counts definitions, of which there are finitely many.

## Main definitions

* `Grammar.Complete`, `Rules.Complete`: no parsers made by other means, and no reference without a
  definition
* `Rules.Nullable`: the grammar may succeed without consumption
* `Rules.Begins`: the grammar may run a reference before anything is consumed
* `Rules.LeftCalls`, `Rules.NoLeftRecursion`: the left calls of rules, and that they form no cycle
* `Rules.rank`: the number of definitions that a rule leads to

## Main results

* `Rules.rank_lt_of_leftCalls`: left calls lower the rank
* `Rules.rank_lt_count`: the rank of a rule is less than the number of rules
* `Rules.noLeftRecursion_of_lt`: left calls that lower some number form no cycle
-/

namespace ParserKit

variable {σ : Type} {ρ : Type → Type} {α β : Type}

/-- A reference, with the type of its values. -/
abbrev Reference (ρ : Type → Type) : Type 1 := (α : Type) × ρ α

/-! ## Complete grammars -/

/-- The reference finds a definition: the rule has been given one and is still there. -/
def Rules.Defines (rules : Rules σ ρ) (x : Reference ρ) : Prop := ∃ g, rules.find x.2 = .known g

/-- The grammar is made of combinators, and each of its references finds a definition. -/
def Grammar.Complete (rules : Rules σ ρ) : {α : Type} → Grammar σ ρ α → Prop
  | _, .retn _ => True
  | _, .retnWith _ => True
  | _, .fail => True
  | _, .satisfy _ => True
  | _, .eof => True
  | _, .scan _ => True
  | _, .raw _ => False
  | _, .bind p k => p.Complete rules ∧ ∀ a, (k a).Complete rules
  | _, .map _ p => p.Complete rules
  | _, .seqRight p q => p.Complete rules ∧ q.Complete rules
  | _, .seqLeft p q => p.Complete rules ∧ q.Complete rules
  | _, .both p q => p.Complete rules ∧ q.Complete rules
  | _, .orElse p q => p.Complete rules ∧ q.Complete rules
  | _, .attempt p => p.Complete rules
  | _, .label _ p => p.Complete rules
  | _, .many p => p.Complete rules
  | _, .many1 p => p.Complete rules
  | _, .sepBy1 p sep => p.Complete rules ∧ sep.Complete rules
  | _, .delay make => (make ()).Complete rules
  | _, .ref r => rules.Defines ⟨_, r⟩

/-- All definitions are complete. -/
def Rules.Complete (rules : Rules σ ρ) : Prop :=
  ∀ {α : Type} (r : ρ α) (g : Grammar σ ρ α), rules.find r = .known g → g.Complete rules

theorem Grammar.Complete.plain {rules : Rules σ ρ} {g : Grammar σ ρ α} (h : g.Complete rules) :
    g.Plain := by
  induction g with
  | retn | retnWith | fail | satisfy | eof | ref => trivial
  | scan m => exact nofun
  | raw p => exact h.elim
  | bind p k hp hk => exact ⟨hp h.1, fun a => hk a (h.2 a)⟩
  | map f p hp => exact hp h
  | seqRight p q hp hq => exact ⟨hp h.1, hq h.2⟩
  | seqLeft p q hp hq => exact ⟨hp h.1, hq h.2⟩
  | both p q hp hq => exact ⟨hp h.1, hq h.2⟩
  | orElse p q hp hq => exact ⟨hp h.1, hq h.2⟩
  | attempt p hp => exact ⟨nofun, hp h⟩
  | label name p hp => exact hp h
  | many p hp => exact hp h
  | many1 p hp => exact hp h
  | sepBy1 p sep hp hsep => exact ⟨hp h.1, hsep h.2⟩
  | delay make hmake => exact hmake () h

theorem Rules.Complete.plain {rules : Rules σ ρ} (h : rules.Complete) : rules.Plain :=
  fun r g hg => (h r g hg).plain

namespace Rules

variable {rules : Rules σ ρ} {x y : Reference ρ}

/-! ## Nullable grammars -/

/-- The grammar may succeed without consumption. -/
inductive Nullable (rules : Rules σ ρ) : {α : Type} → Grammar σ ρ α → Prop where
  | retn {α : Type} (a : α) : Nullable rules (.retn a)
  | retnWith {α : Type} (make : Unit → α) : Nullable rules (.retnWith make)
  | eof : Nullable rules .eof
  /-- The search may find nothing but the empty match. -/
  | scan {m : Matcher σ} {xs : List σ} (h : m.find xs = some []) : Nullable rules (.scan m)
  | bind {α β : Type} {p : Grammar σ ρ α} {k : α → Grammar σ ρ β} {a : α}
      (hp : Nullable rules p) (hk : Nullable rules (k a)) : Nullable rules (.bind p k)
  | map {α β : Type} {f : α → β} {p : Grammar σ ρ α} (hp : Nullable rules p) :
      Nullable rules (.map f p)
  | seqRight {α β : Type} {p : Grammar σ ρ α} {q : Grammar σ ρ β} (hp : Nullable rules p)
      (hq : Nullable rules q) : Nullable rules (.seqRight p q)
  | seqLeft {α β : Type} {p : Grammar σ ρ α} {q : Grammar σ ρ β} (hp : Nullable rules p)
      (hq : Nullable rules q) : Nullable rules (.seqLeft p q)
  | both {α β : Type} {p : Grammar σ ρ α} {q : Grammar σ ρ β} (hp : Nullable rules p)
      (hq : Nullable rules q) : Nullable rules (.both p q)
  | first {α : Type} {p q : Grammar σ ρ α} (hp : Nullable rules p) : Nullable rules (.orElse p q)
  | second {α : Type} {p q : Grammar σ ρ α} (hq : Nullable rules q) : Nullable rules (.orElse p q)
  | attempt {α : Type} {p : Grammar σ ρ α} (hp : Nullable rules p) : Nullable rules (.attempt p)
  | label {α : Type} {name : String} {p : Grammar σ ρ α} (hp : Nullable rules p) :
      Nullable rules (.label name p)
  /-- No repetition at all is a success. -/
  | many {α : Type} (p : Grammar σ ρ α) : Nullable rules (.many p)
  | many1 {α : Type} {p : Grammar σ ρ α} (hp : Nullable rules p) : Nullable rules (.many1 p)
  | sepBy1 {α β : Type} {p : Grammar σ ρ α} {sep : Grammar σ ρ β} (hp : Nullable rules p) :
      Nullable rules (.sepBy1 p sep)
  | delay {α : Type} {make : Unit → Grammar σ ρ α} (h : Nullable rules (make ())) :
      Nullable rules (.delay make)
  | ref {α : Type} {r : ρ α} {g : Grammar σ ρ α} (hr : rules.find r = .known g)
      (hg : Nullable rules g) : Nullable rules (.ref r)

/-- A symbol is read by consuming it. -/
theorem not_nullable_satisfy (accepts : σ → Bool) :
    ¬ rules.Nullable (.satisfy accepts : Grammar σ ρ σ) := by
  -- the type of the values is that of the symbols, so a case split needs a grammar in general
  have key {α : Type} {g : Grammar σ ρ α} (h : rules.Nullable g) :
      match g with
      | .satisfy _ => False
      | _ => True := by
    cases h <;> trivial
  exact fun h => key h

theorem nullable_label_iff {name : String} {p : Grammar σ ρ α} :
    rules.Nullable (.label name p) ↔ rules.Nullable p := by
  constructor
  · intro h
    cases h with
    | label hp => exact hp
  · exact .label

/-! ## Left calls -/

/-- The grammar may run the reference `x` before anything is consumed: first parts and repeated
parts count always, later parts if those before them are nullable. -/
def Begins (rules : Rules σ ρ) (x : Reference ρ) : {α : Type} → Grammar σ ρ α → Prop
  | _, .retn _ => False
  | _, .retnWith _ => False
  | _, .fail => False
  | _, .satisfy _ => False
  | _, .eof => False
  | _, .scan _ => False
  | _, .raw _ => False
  | _, .bind p k => rules.Begins x p ∨ rules.Nullable p ∧ ∃ a, rules.Begins x (k a)
  | _, .map _ p => rules.Begins x p
  | _, .seqRight p q => rules.Begins x p ∨ rules.Nullable p ∧ rules.Begins x q
  | _, .seqLeft p q => rules.Begins x p ∨ rules.Nullable p ∧ rules.Begins x q
  | _, .both p q => rules.Begins x p ∨ rules.Nullable p ∧ rules.Begins x q
  | _, .orElse p q => rules.Begins x p ∨ rules.Begins x q
  | _, .attempt p => rules.Begins x p
  | _, .label _ p => rules.Begins x p
  | _, .many p => rules.Begins x p
  | _, .many1 p => rules.Begins x p
  -- the item behind the separator is the one before it, which has been counted
  | _, .sepBy1 p sep => rules.Begins x p ∨ rules.Nullable p ∧ rules.Begins x sep
  | _, .delay make => rules.Begins x (make ())
  | _, .ref r => x = ⟨_, r⟩

/-- The rule of `x` may run the reference `y` before anything is consumed. -/
def LeftCalls (rules : Rules σ ρ) (x y : Reference ρ) : Prop :=
  ∃ g, rules.find x.2 = .known g ∧ rules.Begins y g

/-- No rule leads back to itself by left calls. -/
def NoLeftRecursion (rules : Rules σ ρ) : Prop := ∀ x, ¬ Relation.TransGen rules.LeftCalls x x

/-- Left calls that lower some number form no cycle. -/
theorem noLeftRecursion_of_lt (f : Reference ρ → Nat)
    (hf : ∀ x y, rules.LeftCalls x y → f y < f x) : rules.NoLeftRecursion := by
  intro x hcycle
  have hlt (y : Reference ρ) (hy : Relation.TransGen rules.LeftCalls x y) : f y < f x := by
    induction hy with
    | single h => exact hf _ _ h
    | tail _ h ih => exact (hf _ _ h).trans ih
  exact Nat.lt_irrefl _ (hlt x hcycle)

/-! ## The rank of a rule -/

/-- The definitions of the rules that `x` leads to by left calls. -/
def reach (rules : Rules σ ρ) (x : Reference ρ) : Set ((α : Type) × Grammar σ ρ α) :=
  {d | ∃ r : ρ d.1, Relation.TransGen rules.LeftCalls x ⟨d.1, r⟩ ∧ rules.find r = .known d.2}

/-- How many definitions `x` leads to by left calls. -/
noncomputable def rank (rules : Rules σ ρ) (x : Reference ρ) : Nat := (rules.reach x).ncard

theorem reach_subset_definitions (rules : Rules σ ρ) (x : Reference ρ) :
    rules.reach x ⊆ rules.definitions := by
  rintro d ⟨r, -, hr⟩
  exact ⟨r, hr⟩

theorem reach_subset_of_leftCalls (h : rules.LeftCalls x y) : rules.reach y ⊆ rules.reach x := by
  rintro d ⟨r, hyr, hr⟩
  exact ⟨r, .head h hyr, hr⟩

/-- Without left recursion a rule does not lead to its own definition, under no name. -/
theorem not_mem_reach (hrules : rules.NoLeftRecursion) {r : ρ α} {g : Grammar σ ρ α}
    (hr : rules.find r = .known g) : ⟨α, g⟩ ∉ rules.reach ⟨α, r⟩ := by
  rintro ⟨s, hrs, hs⟩
  -- `s` finds the definition that `r` does, so the first call on the way from `r` is one from `s`
  obtain ⟨w, ⟨g', hg', hw⟩, hws⟩ := Relation.TransGen.head'_iff.1 hrs
  obtain rfl : g = g' := Definition.known.inj (hr.symm.trans hg')
  have hsw : rules.LeftCalls ⟨α, s⟩ w := ⟨g, hs, hw⟩
  exact hrules w (Relation.TransGen.tail' hws hsw)

/-- A left call leads to fewer definitions than the rule that makes it. -/
theorem rank_lt_of_leftCalls (hrules : rules.NoLeftRecursion) (hcounted : rules.Counted)
    (h : rules.LeftCalls x y) (hy : rules.Defines y) : rules.rank y < rules.rank x := by
  obtain ⟨g, hg⟩ := hy
  have hmem : ⟨y.1, g⟩ ∈ rules.reach x := ⟨y.2, .single h, hg⟩
  have hssub : rules.reach y ⊂ rules.reach x :=
    (reach_subset_of_leftCalls h).ssubset_of_mem_notMem hmem (not_mem_reach hrules hg)
  exact Set.ncard_lt_ncard hssub (hcounted.finite.subset (rules.reach_subset_definitions x))

/-- A rule leads to fewer definitions than there are rules, for it does not lead to its own. -/
theorem rank_lt_count (hrules : rules.NoLeftRecursion) (hcounted : rules.Counted)
    (hx : rules.Defines x) : rules.rank x < rules.count := by
  obtain ⟨g, hg⟩ := hx
  have hmem : ⟨x.1, g⟩ ∈ rules.definitions := ⟨x.2, hg⟩
  have hssub : rules.reach x ⊂ rules.definitions :=
    (rules.reach_subset_definitions x).ssubset_of_mem_notMem hmem (not_mem_reach hrules hg)
  exact (Set.ncard_lt_ncard hssub hcounted.finite).trans_le hcounted.ncard_le

end Rules

end ParserKit
