import Mathlib.Order.Monotone.Basic
import ParserKit.Proofs.Contract
import ParserKit.Proofs.Grammar.Counting
import ParserKit.Proofs.Parser.Lockstep

/-!
# One symbol of lookahead

Before it asks for a deferred reply a run without attempts and searches has seen one symbol at most:
the one under the cursor where it began. So two inputs with the same symbol there cannot be told
apart by the tag of the run, nor by the reply of an empty outcome.

Both runs have to be as deep as they need to be. How deep calls may nest depends on how much input
is left, which differs between the two. Up to the first symbol that is consumed the runs stay at
one place, and there nested calls beyond the number of rules go round in a circle: the definitions
that come to an end grow in number with the depth until they stay the same, and they can grow no
more often than there are definitions.

## Main definitions

* `Grammar.Predictive`, `Rules.Predictive`: no attempts, no searches, no parsers made by other means
* `Parser.SameStart p c d`: the runs of `p` from `c` and from `d` tell the same at once
* `Rules.decided`: the definitions that come to an end at a cursor, within a depth of calls

## Main results

* `Rules.decided_eq`: beyond the number of rules depth makes no difference at one place
* `Rules.parser_lookahead`: equal symbols under the cursors lead to equal tags and empty replies
-/

namespace ParserKit

variable {σ : Type} {ρ : Type → Type} {α β : Type}

/-- A grammar without attempts and searches, over the combinators alone. -/
abbrev Grammar.Predictive (g : Grammar σ ρ α) : Prop := g.Within fun _ => False

/-- Rules without attempts and searches, over the combinators alone. -/
abbrev Rules.Predictive (rules : Rules σ ρ) : Prop := rules.Within fun _ => False

/-- From `c` and from `d` the parser halts alike, or ends with the same tag. If it consumes nothing
it has the same value or the same message, and a success stands where its run began. -/
structure Parser.SameStart (p : Parser σ α) (c d : Cursor σ) : Prop where
  halt_iff : ∀ halt, p.run c = throw halt ↔ p.run d = throw halt
  isConsumed_eq : ∀ {o o'}, p.run c = pure o → p.run d = pure o' → o.isConsumed = o'.isConsumed
  empty_ok : ∀ {a rest}, p.run c = pure (.empty (.ok a rest)) →
    rest = c ∧ p.run d = pure (.empty (.ok a d))
  empty_error : ∀ {m}, p.run c = pure (.empty (.error m)) → p.run d = pure (.empty (.error m))

/-! ## Runs from two cursors with the same symbol -/

namespace Link

variable {c d : Cursor σ}

/-- The runs stay at `c` and at `d`, where they see the same symbol. -/
def fixed (early : Prop) (c d : Cursor σ) (hpos : c.position = d.position)
    (hpeek : c.peek = d.peek) : Link σ where
  cursors c' d' := c' = c ∧ d' = d
  messages := (· = ·)
  faults := (· = ·)
  deep := False
  early := early
  peek_eq := by
    rintro c' d' ⟨rfl, rfl⟩
    exact hpeek
  on := by
    rintro c' d' ⟨rfl, rfl⟩
    simp only [Message.on, hpos, hpeek]
  withExpected := by
    rintro m n rfl label
    rfl
  relabel := by
    rintro m n rfl label
    rfl
  merge := by
    rintro m n m' n' rfl rfl
    rfl
  unassigned := by
    rintro c' d' ⟨rfl, rfl⟩
    rw [hpos]
  dropped := by
    rintro c' d' ⟨rfl, rfl⟩
    rw [hpos]
  remaining_eq := nofun
  advanceBy := nofun

variable {hpos : c.position = d.position} {hpeek : c.peek = d.peek}
  {x y : Exec (Outcome Id σ α)}

/-- Related rules give runs of a grammar that correspond. -/
theorem parses_fixed {early : Prop} {env env' : {α : Type} → ρ α → Parser σ α}
    (henv : ∀ {α : Type} (r : ρ α), (fixed early c d hpos hpeek).Parsers (env r) (env' r))
    {g : Grammar σ ρ α} (hg : g.Predictive) :
    (fixed early c d hpos hpeek).Parses ((g.toParser env).run c) ((g.toParser env').run d) :=
  (compatible id nofun nofun).toParser henv (.refl g) hg ⟨rfl, rfl⟩

/-- So do rules at one depth of calls, or at two if the first run may end early. -/
theorem parses_fixed_call {early : Prop} {rules : Rules σ ρ} (hrules : rules.Predictive)
    {n m : Nat} (hnm : n = m ∨ early ∧ n ≤ m) {g : Grammar σ ρ α} (hg : g.Predictive) :
    (fixed early c d hpos hpeek).Parses ((g.toParser fun r => rules.call n r).run c)
      ((g.toParser fun r => rules.call m r).run d) :=
  parses_fixed (fun r => parsers_call id nofun nofun hrules hnm r) hg

/-- Runs that correspond, with no early end, both come to an end or neither does. -/
theorem Runs.exhausted_iff {L : Link σ} {Q : α → β → Prop} {x : Exec α} {y : Exec β}
    (h : L.Runs Q x y) (he : ¬ L.early) : x = Run.exhausted ↔ y = Run.exhausted := by
  cases h with
  | done => exact ⟨nofun, nofun⟩
  | fault => exact ⟨nofun, nofun⟩
  | exhausted => exact ⟨fun _ => rfl, fun _ => rfl⟩
  | early h' => exact absurd h' he

/-- Runs that correspond but for an early end do so altogether, if the second one ends early too. -/
theorem Runs.fixed_of_early (h : (fixed True c d hpos hpeek).Parses x y)
    (hxy : x = Run.exhausted → y = Run.exhausted) :
    (fixed False c d hpos hpeek).Parses x y := by
  cases h with
  | fault hf => exact .fault hf
  | exhausted => exact .exhausted
  | early _ y =>
    rw [hxy rfl]
    exact .exhausted
  | done ho =>
    refine .done ?_
    cases ho with
    | consumed => exact .consumed nofun
    | empty hr =>
      cases hr with
      | ok a hcd => exact .empty (.ok a hcd)
      | error hm => exact .empty (.error hm)

theorem Runs.fixed_symm (h : (fixed False c d hpos hpeek).Parses x y) :
    (fixed False d c hpos.symm hpeek.symm).Parses y x := by
  cases h with
  | fault hf => exact .fault hf.symm
  | exhausted => exact .exhausted
  | early he => exact he.elim
  | done ho =>
    refine .done ?_
    cases ho with
    | consumed => exact .consumed nofun
    | empty hr =>
      cases hr with
      | ok a hcd => exact .empty (.ok a hcd.symm)
      | error hm => exact .empty (.error hm.symm)

end Link

/-- Runs of a parser that correspond tell the same. -/
theorem Parser.SameStart.of_runs {c d : Cursor σ} {hpos : c.position = d.position}
    {hpeek : c.peek = d.peek} {p : Parser σ α}
    (h : (Link.fixed False c d hpos hpeek).Parses (p.run c) (p.run d)) :
    p.SameStart c d := by
  constructor
  all_goals
    generalize p.run c = x at h
    generalize p.run d = y at h
  · intro halt
    cases h with
    | done => exact ⟨nofun, nofun⟩
    | fault hf =>
      obtain rfl := hf
      exact Iff.rfl
    | exhausted => exact Iff.rfl
    | early he => exact he.elim
  · intro o o' hx hy
    subst hx hy
    cases h with
    | done ho => cases ho <;> rfl
  · intro a rest hx
    subst hx
    cases h with
    | done ho =>
      cases ho with
      | empty hr =>
        cases hr with
        | ok a hcd => exact ⟨hcd.1, by rw [hcd.2]⟩
  · intro m hx
    subst hx
    cases h with
    | done ho =>
      cases ho with
      | empty hr =>
        cases hr with
        | error hm => rw [hm]

/-! ## Depth at one place -/

namespace Rules

variable {rules : Rules σ ρ} {c d : Cursor σ} {n m : Nat}

/-- The definitions that come to an end at `c`, with a tag or a fault, within `n` nested calls. -/
def decided (rules : Rules σ ρ) (c : Cursor σ) (n : Nat) : Set ((α : Type) × Grammar σ ρ α) :=
  {x ∈ rules.definitions | (x.2.toParser fun r => rules.call n r).run c ≠ Run.exhausted}

theorem decided_subset (rules : Rules σ ρ) (c : Cursor σ) (n : Nat) :
    rules.decided c n ⊆ rules.definitions :=
  fun _ hx => hx.1

/-- Runs from cursors with the same symbol correspond, at any two depths that reach the same
definitions; the first depth is the smaller one. -/
theorem parsers_call_of_decided (hrules : rules.Predictive) (hpos : c.position = d.position)
    (hpeek : c.peek = d.peek) (hnm : n ≤ m)
    (hdecided : ∀ x ∈ rules.decided d m, x ∈ rules.decided c n) (r : ρ α) :
    (Link.fixed False c d hpos hpeek).Parsers (rules.call (n + 1) r) (rules.call (m + 1) r) := by
  refine Link.parsers_call_succ fun g hg => ?_
  rintro c' d' ⟨rfl, rfl⟩
  have hearly : (Link.fixed True c' d' hpos hpeek).Parses
      ((g.toParser fun r => rules.call n r).run c') ((g.toParser fun r => rules.call m r).run d') :=
    Link.parses_fixed_call hrules (.inr ⟨trivial, hnm⟩) (hrules r g hg)
  refine hearly.fixed_of_early fun hc => ?_
  -- had the second run come to an end, so had the first one
  by_contra hd
  exact (hdecided ⟨α, g⟩ ⟨⟨r, hg⟩, hd⟩).2 hc

/-- At the same depth the definitions that come to an end depend on the symbol alone. -/
theorem mem_decided_iff (hrules : rules.Predictive) (hpos : c.position = d.position)
    (hpeek : c.peek = d.peek) {x : (α : Type) × Grammar σ ρ α} :
    x ∈ rules.decided c n ↔ x ∈ rules.decided d n := by
  have hruns (hx : x ∈ rules.definitions) :
      (Link.fixed False c d hpos hpeek).Parses ((x.2.toParser fun r => rules.call n r).run c)
        ((x.2.toParser fun r => rules.call n r).run d) := by
    obtain ⟨r, hr⟩ := hx
    exact Link.parses_fixed_call hrules (.inl rfl) (hrules r _ hr)
  constructor
  · rintro ⟨hx, hc⟩
    exact ⟨hx, fun hd => hc (((hruns hx).exhausted_iff id).2 hd)⟩
  · rintro ⟨hx, hd⟩
    exact ⟨hx, fun hc => hd (((hruns hx).exhausted_iff id).1 hc)⟩

/-- What comes to an end still does with more room, which allows for an early end of the first run
only. -/
theorem decided_mono (hrules : rules.Predictive) (c : Cursor σ) (hnm : n ≤ m) :
    rules.decided c n ⊆ rules.decided c m := by
  rintro x ⟨⟨r, hr⟩, hn⟩
  refine ⟨⟨r, hr⟩, fun hm => ?_⟩
  have hearly : (Link.fixed True c c rfl rfl).Parses
      ((x.2.toParser fun r => rules.call n r).run c)
      ((x.2.toParser fun r => rules.call m r).run c) :=
    Link.parses_fixed_call hrules (.inr ⟨trivial, hnm⟩) (hrules r _ hr)
  rw [hm] at hearly
  generalize (x.2.toParser fun r => rules.call n r).run c = y at hearly hn
  cases hearly with
  | exhausted => exact hn rfl
  | early => exact hn rfl

/-- If one more level reaches no more definitions, neither do the levels behind it. -/
theorem decided_step (hrules : rules.Predictive) (c : Cursor σ)
    (h : rules.decided c n = rules.decided c (n + 1)) :
    rules.decided c (n + 1) = rules.decided c (n + 2) := by
  refine (decided_mono hrules c (Nat.le_succ _)).antisymm ?_
  rintro x ⟨⟨r, hr⟩, hx⟩
  refine ⟨⟨r, hr⟩, fun hexhausted => hx ?_⟩
  -- all references run alike at the two depths, so the definition does
  have hcall {β : Type} (r' : ρ β) : (Link.fixed False c c rfl rfl).Parsers
      (rules.call (n + 1) r') (rules.call (n + 2) r') :=
    parsers_call_of_decided hrules rfl rfl (Nat.le_succ n) (fun y hy => h ▸ hy) r'
  have hruns := Link.parses_fixed (fun r' => hcall r') (hrules r _ hr)
  exact (hruns.exhausted_iff id).1 hexhausted

/-- Beyond the number of rules, depth makes no difference at one place. -/
theorem decided_eq (hrules : rules.Predictive) (hcounted : rules.Counted) (c : Cursor σ)
    (hn : rules.count ≤ n) : rules.decided c n = rules.decided c rules.count := by
  have hfin (k : Nat) : (rules.decided c k).Finite :=
    hcounted.finite.subset (rules.decided_subset c k)
  have hcard : (rules.decided c n).ncard = (rules.decided c rules.count).ncard := by
    refine Nat.stabilises_of_monotone (f := fun k => (rules.decided c k).ncard) ?_ ?_ ?_ hn
    · intro j k hjk
      exact Set.ncard_le_ncard (decided_mono hrules c hjk) (hfin k)
    · intro k
      exact (Set.ncard_le_ncard (rules.decided_subset c k) hcounted.finite).trans
        hcounted.ncard_le
    · intro k hk
      have heq : rules.decided c k = rules.decided c (k + 1) :=
        Set.eq_of_subset_of_ncard_le (decided_mono hrules c (Nat.le_succ k)) hk.ge (hfin _)
      exact congrArg Set.ncard (decided_step hrules c heq)
  exact (Set.eq_of_subset_of_ncard_le (decided_mono hrules c hn) hcard.le (hfin n)).symm

/-- Grammars correspond at all depths beyond the number of rules. -/
theorem parses_of_count_lt (hrules : rules.Predictive) (hcounted : rules.Counted)
    {g : Grammar σ ρ α} (hg : g.Predictive) (hpos : c.position = d.position)
    (hpeek : c.peek = d.peek) (hn : rules.count < n) (hm : rules.count < m) :
    (Link.fixed False c d hpos hpeek).Parses ((g.toParser fun r => rules.call n r).run c)
      ((g.toParser fun r => rules.call m r).run d) := by
  wlog hnm : n ≤ m generalizing c d n m
  · exact (this hpos.symm hpeek.symm hm hn (Nat.le_of_not_le hnm)).fixed_symm
  obtain ⟨n, rfl⟩ : ∃ k, n = k + 1 := ⟨n - 1, by omega⟩
  obtain ⟨m, rfl⟩ : ∃ k, m = k + 1 := ⟨m - 1, by omega⟩
  have hdecided (x) (hx : x ∈ rules.decided d m) : x ∈ rules.decided c n := by
    rw [decided_eq hrules hcounted c (Nat.le_of_lt_succ hn), mem_decided_iff hrules hpos hpeek,
      ← decided_eq hrules hcounted d (Nat.le_of_lt_succ hm)]
    exact hx
  have hcall {β : Type} (r : ρ β) : (Link.fixed False c d hpos hpeek).Parsers
      (rules.call (n + 1) r) (rules.call (m + 1) r) :=
    parsers_call_of_decided hrules hpos hpeek (Nat.le_of_succ_le_succ hnm) hdecided r
  exact Link.parses_fixed (fun r => hcall r) hg

/-- Let two cursors stand at the same position, over the same symbol or both at the end of their
inputs. Then a grammar without attempts and searches tells the same from both before a deferred
reply is asked for, at every depth of calls and at the depth that its parser has at each of them. -/
theorem parser_lookahead (rules : Rules σ ρ) (hrules : rules.Predictive) (g : Grammar σ ρ α)
    (hg : g.Predictive) (c d : Cursor σ) (hpos : c.position = d.position)
    (hpeek : c.peek = d.peek) :
    (∀ depth, (g.toParser fun r => rules.call depth r).SameStart c d) ∧
      (rules.Counted → (rules.parser g).SameStart c d) := by
  constructor
  · intro depth
    have hruns : (Link.fixed False c d hpos hpeek).Parses
        ((g.toParser fun r => rules.call depth r).run c)
        ((g.toParser fun r => rules.call depth r).run d) :=
      Link.parses_fixed_call hrules (.inl rfl) hg
    exact .of_runs hruns
  · intro hcounted
    have hdepth (e : Cursor σ) : rules.count < rules.depthFrom e :=
      Nat.lt_succ_of_le (Nat.le_mul_of_pos_right _ (Nat.succ_pos _))
    exact .of_runs (parses_of_count_lt hrules hcounted hg hpos hpeek (hdepth c) (hdepth d))

end Rules

/-- There is one reference, and so one definition. -/
theorem counted_nestingRules : nestingRules.Counted := by
  have hsub : nestingRules.definitions ⊆ {⟨Nat, nesting⟩} := by
    rintro ⟨α, g⟩ ⟨r, hr⟩
    cases r
    cases hr
    rfl
  exact .of_subset (Set.finite_singleton _) hsub (Set.ncard_singleton _).le

theorem predictive_nestingRules : nestingRules.Predictive := by
  intro α r g h
  cases r
  cases h
  exact ⟨⟨⟨trivial, trivial⟩, trivial⟩, trivial⟩

/-- An opening bracket commits the run whether or not it is closed later, and without one the run
finds no brackets, whatever comes behind. -/
theorem lookahead_of_nesting :
    (∃ o o', (nestingRules.parser nesting).run (.start 0 #['(', 'x']) = pure o ∧
      (nestingRules.parser nesting).run (.start 1 #['(', '(', ')', ')']) = pure o' ∧
      o.isConsumed = true ∧ o'.isConsumed = true) ∧
    (nestingRules.parser nesting).run (.start 1 #['x', '(']) =
      pure (.empty (.ok 0 (.start 1 #['x', '(']))) := by
  have hg : nesting.Predictive := predictive_nestingRules .nesting nesting rfl
  obtain ⟨-, hopen⟩ := Rules.parser_lookahead nestingRules predictive_nestingRules nesting hg
    (.start 0 #['(', 'x']) (.start 1 #['(', '(', ')', ')']) rfl rfl
  obtain ⟨-, hnone⟩ := Rules.parser_lookahead nestingRules predictive_nestingRules nesting hg
    (.start 0 #['x']) (.start 1 #['x', '(']) rfl rfl
  refine ⟨⟨_, _, rfl, rfl, rfl, ?_⟩, ?_⟩
  · exact ((hopen counted_nestingRules).isConsumed_eq rfl rfl).symm
  · exact ((hnone counted_nestingRules).empty_ok rfl).2

end ParserKit
