import ParserKit.Parser.Derived
import ParserKit.Proofs.Cursor.Order

/-!
# What a parser gives

Running a parser and taking its reply comes to an end with a tag and a reply, or halts.
`Parser.Gives p c t r` says that it comes to an end, and with what. For each combinator there is
one equivalence that says when it gives a tag and a reply, in terms of what its parts give. The
equivalences are a big-step semantics of the combinators: proofs about results cite them and
need not look at outcomes, deferred replies and halts again.

Sequencing without a continuation is a special case of `bind`, by definition. What is left is a
handful of combinators.

## Main definitions

* `Parser.Gives p c t r`: at `c` the parser `p` ends with the tag `t` and the reply `r`
* `Parser.Final`, `Parser.Clean`: the results that an alternation and an attempt leave alone

## Main results

* `Parser.Gives.unique`: a parser gives at most one result
* `Parser.gives_bind_iff`, `Parser.gives_orElse_iff`, `Parser.gives_attempt_iff`, …: what the
  combinators give
-/

namespace ParserKit

/-! ## Computations that come to an end -/

namespace Run

variable {α β : Type} {x : Exec α} {f : α → Exec β} {a : α} {b : β}

@[simp] theorem pure_eq_pure {a a' : α} : (pure a : Exec α) = pure a' ↔ a = a' := by
  constructor
  · intro h
    cases h
    rfl
  · rintro rfl
    rfl

/-- A sequence of two computations ends iff both do. -/
theorem bind_eq_pure_iff : x >>= f = pure b ↔ ∃ a, x = pure a ∧ f a = pure b := by
  cases x with
  | ok a =>
    constructor
    · intro h
      exact ⟨a, rfl, h⟩
    · rintro ⟨a', ha, h⟩
      cases ha
      exact h
  | error halt =>
    constructor
    · intro h
      cases h
    · rintro ⟨a', ha, -⟩
      cases ha

theorem map_eq_pure_iff {g : α → β} : g <$> x = pure b ↔ ∃ a, x = pure a ∧ g a = b := by
  rw [map_eq_pure_bind, bind_eq_pure_iff]
  simp only [pure_eq_pure]

/-- A sequence of two computations faults iff the first one does, or it ends and the second one
faults. -/
theorem bind_eq_fault_iff {e : Fault} :
    x >>= f = fault e ↔ x = fault e ∨ ∃ a, x = pure a ∧ f a = fault e := by
  cases x with
  | ok a =>
    constructor
    · intro h
      exact .inr ⟨a, rfl, h⟩
    · rintro (h | ⟨a', ha, h⟩)
      · cases h
      · cases ha
        exact h
  | error halt =>
    constructor
    · intro h
      cases h
      exact .inl rfl
    · rintro (h | ⟨a', ha, -⟩)
      · cases h
        rfl
      · cases ha

theorem map_eq_fault_iff {g : α → β} {e : Fault} : g <$> x = fault e ↔ x = fault e := by
  rw [map_eq_pure_bind, bind_eq_fault_iff]
  constructor
  · rintro (h | ⟨a, -, h⟩)
    · exact h
    · cases h
  · exact .inl

@[simp] theorem throw_ne_pure (halt : Halt) : (throw halt : Exec α) ≠ pure a := nofun

@[simp] theorem exhausted_ne_pure : (exhausted : Exec α) ≠ pure a := nofun

end Run

namespace Parser

variable {σ α β : Type} {p q : Parser σ α} {c d : Cursor σ} {t : Bool} {r : Reply σ α}

/-- Parsers are equal if their runs are. -/
theorem ext_run (h : ∀ c, p.run c = q.run c) : p = q := congrArg Parser.mk (funext h)

/-! ## Results -/

/-- At the cursor `c` the parser comes to an end, with the reply `r`; `t` tells whether it
consumed input. -/
def Gives (p : Parser σ α) (c : Cursor σ) (t : Bool) (r : Reply σ α) : Prop :=
  ∃ o, p.run c = pure o ∧ o.isConsumed = t ∧ o.takeReply = pure r

/-- A result without consumption is there as soon as the run ends. -/
theorem gives_empty_iff : p.Gives c false r ↔ p.run c = pure (.empty r) := by
  constructor
  · rintro ⟨o, ho, ht, hr⟩
    cases o with
    | consumed reply => cases ht
    | empty s =>
      cases Run.pure_eq_pure.1 hr
      exact ho
  · intro h
    exact ⟨_, h, rfl, rfl⟩

/-- A result after consumption is there once it is asked for. -/
theorem gives_consumed_iff :
    p.Gives c true r ↔ ∃ reply, p.run c = pure (.consumed reply) ∧ reply.take = pure r := by
  constructor
  · rintro ⟨o, ho, ht, hr⟩
    cases o with
    | consumed reply => exact ⟨reply, ho, hr⟩
    | empty s => cases ht
  · rintro ⟨reply, ho, hr⟩
    exact ⟨_, ho, rfl, hr⟩

theorem gives_consumed_iff_of_run {reply : Deferred Id (Reply σ α)}
    (h : p.run c = pure (.consumed reply)) : p.Gives c true r ↔ reply.take = pure r := by
  constructor
  · intro hp
    obtain ⟨reply', h', hr⟩ := gives_consumed_iff.1 hp
    cases Run.pure_eq_pure.1 (h.symm.trans h')
    exact hr
  · intro hr
    exact gives_consumed_iff.2 ⟨reply, h, hr⟩

/-- A parser gives at most one result. -/
theorem Gives.unique {u : Bool} {s : Reply σ α} (h : p.Gives c t r) (h' : p.Gives c u s) :
    t = u ∧ r = s := by
  obtain ⟨o, ho, rfl, hr⟩ := h
  obtain ⟨o', ho', rfl, hr'⟩ := h'
  obtain rfl := Run.pure_eq_pure.1 (ho.symm.trans ho')
  exact ⟨rfl, Run.pure_eq_pure.1 (hr.symm.trans hr')⟩

/-- The value is what taking the result leaves of it. -/
theorem Gives.parseValue (h : p.Gives c t r) : p.parseValue c = pure r.toExcept := by
  obtain ⟨o, ho, -, hr⟩ := h
  calc p.parseValue c = Reply.toExcept <$> (p.run c >>= Outcome.takeReply) := rfl
    _ = pure r.toExcept := by rw [ho, pure_bind, hr, map_pure]

/-- A run that halts gives nothing. -/
theorem not_gives_of_throw {halt : Cursor σ → Halt} :
    ¬ Gives (⟨fun c => throw (halt c)⟩ : Parser σ α) c t r := by
  rintro ⟨o, ho, -, -⟩
  exact Run.throw_ne_pure _ ho

/-! ## Leaves -/

theorem gives_iff_of_run_empty {s : Reply σ α} (h : p.run c = pure (.empty s)) :
    p.Gives c t r ↔ t = false ∧ r = s := by
  constructor
  · intro hp
    obtain ⟨ht, hr⟩ := hp.unique (gives_empty_iff.2 h)
    exact ⟨ht, hr⟩
  · rintro ⟨rfl, rfl⟩
    exact gives_empty_iff.2 h

theorem gives_iff_of_run_consumed {s : Reply σ α} (h : p.run c = pure (.consumed (.settled s))) :
    p.Gives c t r ↔ t = true ∧ r = s := by
  have hs : p.Gives c true s := gives_consumed_iff.2 ⟨_, h, rfl⟩
  constructor
  · intro hp
    exact hp.unique hs
  · rintro ⟨rfl, rfl⟩
    exact hs

theorem gives_retn_iff {a : α} : (retn a).Gives c t r ↔ t = false ∧ r = .ok a c :=
  gives_iff_of_run_empty rfl

theorem gives_fail_iff : fail.Gives c t r ↔ t = false ∧ r = .error (.on c) :=
  gives_iff_of_run_empty rfl

/-- The end is read where it is, and expected anywhere else. -/
theorem gives_eof_iff {r : Reply σ Unit} :
    eof.Gives c t r ↔ t = false ∧
      r = if c.isAtEnd then .ok () c else .error (.expecting c eofLabel) := by
  apply gives_iff_of_run_empty
  simp only [eof]
  split <;> rfl

theorem gives_satisfy_of_accepts {accepts : σ → Bool} {a : σ} {r : Reply σ σ}
    (hpeek : c.peek = some a) (ha : accepts a = true) (hd : c.advance = .ok d) :
    (satisfy accepts).Gives c t r ↔ t = true ∧ r = .ok a d := by
  apply gives_iff_of_run_consumed
  simp only [satisfy, hpeek, ha, if_true, hd]
  rfl

theorem gives_satisfy_of_rejects {accepts : σ → Bool} {r : Reply σ σ}
    (h : ∀ a, c.peek = some a → accepts a = false) :
    (satisfy accepts).Gives c t r ↔
      t = false ∧ r = .error (.expecting c predicateLabel) := by
  apply gives_iff_of_run_empty
  simp only [satisfy]
  cases hpeek : c.peek with
  | none => rfl
  | some a => simp [h a hpeek, Outcome.emptyError]

/-- A symbol is read where it is accepted; elsewhere the parser fails, and consumes nothing. -/
theorem gives_satisfy_iff {accepts : σ → Bool} {r : Reply σ σ} :
    (satisfy accepts).Gives c t r ↔
      (∃ a d, c.peek = some a ∧ accepts a = true ∧ c.advance = .ok d ∧ t = true ∧ r = .ok a d) ∨
      ((∀ a, c.peek = some a → accepts a = false) ∧ t = false ∧
        r = .error (.expecting c predicateLabel)) := by
  obtain ⟨a, hpeek, ha⟩ | hno := c.accepts_or_rejects accepts
  · obtain ⟨d, hd⟩ := Cursor.exists_advance_of_peek hpeek
    rw [gives_satisfy_of_accepts hpeek ha hd]
    constructor
    · rintro ⟨ht, hr⟩
      exact .inl ⟨a, d, hpeek, ha, hd, ht, hr⟩
    · rintro (⟨a', d', hpeek', -, hd', ht, hr⟩ | ⟨hno, -, -⟩)
      · obtain rfl := Option.some.inj (hpeek.symm.trans hpeek')
        obtain rfl := Except.ok.inj (hd.symm.trans hd')
        exact ⟨ht, hr⟩
      · simp [hno a hpeek] at ha
  · rw [gives_satisfy_of_rejects hno]
    constructor
    · rintro ⟨ht, hr⟩
      exact .inr ⟨hno, ht, hr⟩
    · rintro (⟨a, d, hpeek, ha, -⟩ | ⟨-, ht, hr⟩)
      · simp [hno a hpeek] at ha
      · exact ⟨ht, hr⟩

/-- A search moves the cursor by the length of what it found. -/
theorem gives_scan_iff {m : Matcher σ} {r : Reply σ (List σ)} :
    (scan m).Gives c t r ↔
      (∃ ys d, m.find c.remaining = some ys ∧ ys ≠ [] ∧ c.advanceBy ys.length = .ok d ∧
        t = true ∧ r = .ok ys d) ∨
      (m.find c.remaining = some [] ∧ t = false ∧ r = .ok [] c) ∨
      (m.find c.remaining = none ∧ t = false ∧ r = .error (.expecting c m.label)) := by
  cases hfind : m.find c.remaining with
  | none =>
    rw [gives_iff_of_run_empty (s := .error (.expecting c m.label)) (by simp [scan, hfind]; rfl)]
    simp
  | some ys =>
    cases ys with
    | nil =>
      rw [gives_iff_of_run_empty (s := .ok [] c) (by simp [scan, hfind]; rfl)]
      simp
    | cons a ys =>
      have hlen : (a :: ys).length ≤ c.left :=
        c.length_remaining ▸ (m.find_isInfix hfind).length_le
      obtain ⟨d, hd⟩ := Cursor.exists_advanceBy hlen
      rw [gives_iff_of_run_consumed (s := .ok (a :: ys) d)
        (by simp only [scan, hfind]; rw [List.length_cons] at hd; rw [hd]; rfl)]
      constructor
      · rintro ⟨ht, hr⟩
        exact .inl ⟨_, d, rfl, List.cons_ne_nil _ _, hd, ht, hr⟩
      · rintro (⟨ys', d', hys, -, hd', ht, hr⟩ | ⟨hnil, -⟩ | ⟨hnone, -⟩)
        · cases hys
          obtain rfl := Except.ok.inj (hd.symm.trans hd')
          exact ⟨ht, hr⟩
        · cases hnil
        · cases hnone

/-! ## Sequencing -/

/-- The forms of sequencing are binds. -/
theorem seqRight_eq_bind (p : Parser σ α) (q : Parser σ β) : p.seqRight q = p.bind fun _ => q :=
  rfl

theorem seqLeft_eq_bind (p : Parser σ α) (q : Parser σ β) :
    p.seqLeft q = p.bind fun a => q.map fun _ => a :=
  rfl

theorem both_eq_bind (p : Parser σ α) (q : Parser σ β) :
    p.both q = p.bind fun a => q.map fun b => (a, b) :=
  rfl

/-- A function changes the value of a success, be it deferred or not, and nothing else. -/
theorem gives_map_iff {f : α → β} {r : Reply σ β} :
    (p.map f).Gives c t r ↔ ∃ s, p.Gives c t s ∧ r = s.map f := by
  constructor
  · rintro ⟨o, ho, rfl, hr⟩
    obtain ⟨o₁, ho₁, ho⟩ := Run.bind_eq_pure_iff.1 ho
    obtain rfl := Run.pure_eq_pure.1 ho
    cases o₁ with
    | consumed reply =>
      obtain ⟨s, hs, rfl⟩ := Run.map_eq_pure_iff.1 hr
      exact ⟨s, ⟨_, ho₁, rfl, hs⟩, rfl⟩
    | empty s => exact ⟨s, ⟨_, ho₁, rfl, rfl⟩, (Run.pure_eq_pure.1 hr).symm⟩
  · rintro ⟨s, ⟨o, ho, rfl, hs⟩, rfl⟩
    refine ⟨o.map f, Run.bind_eq_pure_iff.2 ⟨o, ho, rfl⟩, ?_⟩
    cases o with
    | consumed reply => exact ⟨rfl, Run.map_eq_pure_iff.2 ⟨s, hs, rfl⟩⟩
    | empty s' =>
      cases Run.pure_eq_pure.1 hs
      exact ⟨rfl, rfl⟩

/-- A sequence goes on behind a success, and its tag is that of the second parser unless the first
one consumed input; a failure of the first parser is its result. -/
theorem gives_bind_iff {k : α → Parser σ β} {r : Reply σ β} :
    (p.bind k).Gives c t r ↔
      (∃ a d, p.Gives c false (.ok a d) ∧ (k a).Gives d t r) ∨
      (∃ a d u, p.Gives c true (.ok a d) ∧ (k a).Gives d u r ∧ t = true) ∨
      (∃ m, p.Gives c t (.error m) ∧ r = .error m) := by
  constructor
  · rintro ⟨o, ho, rfl, hr⟩
    obtain ⟨o₁, ho₁, ho⟩ := Run.bind_eq_pure_iff.1 ho
    match o₁, ho₁, ho with
    | .empty (.ok a d), ho₁, ho =>
      -- the second parser runs at once, and its outcome is that of the sequence
      exact .inl ⟨a, d, gives_empty_iff.2 ho₁, o, ho, rfl, hr⟩
    | .empty (.error m), ho₁, ho =>
      obtain rfl := Run.pure_eq_pure.1 ho
      obtain rfl := Run.pure_eq_pure.1 hr
      exact .inr (.inr ⟨m, gives_empty_iff.2 ho₁, rfl⟩)
    | .consumed reply, ho₁, ho =>
      obtain rfl := Run.pure_eq_pure.1 ho
      obtain ⟨s, hs, hr⟩ := Run.bind_eq_pure_iff.1 hr
      have hp : p.Gives c true s := gives_consumed_iff.2 ⟨reply, ho₁, hs⟩
      cases s with
      | ok a d =>
        -- the second parser belongs to the deferred reply, and its own tag is lost
        obtain ⟨o₂, ho₂, hr⟩ := Run.bind_eq_pure_iff.1 hr
        exact .inr (.inl ⟨a, d, o₂.isConsumed, hp, ⟨o₂, ho₂, rfl, hr⟩, rfl⟩)
      | error m =>
        obtain rfl := Run.pure_eq_pure.1 hr
        exact .inr (.inr ⟨m, hp, rfl⟩)
  · rintro (⟨a, d, hp, o, ho, ht, hr⟩ | ⟨a, d, u, hp, ⟨o, ho, -, hr⟩, rfl⟩ | ⟨m, hp, rfl⟩)
    · exact ⟨o, Run.bind_eq_pure_iff.2 ⟨_, gives_empty_iff.1 hp, ho⟩, ht, hr⟩
    · obtain ⟨reply, hrun, hreply⟩ := gives_consumed_iff.1 hp
      refine ⟨_, Run.bind_eq_pure_iff.2 ⟨_, hrun, rfl⟩, rfl, ?_⟩
      exact Run.bind_eq_pure_iff.2 ⟨_, hreply, Run.bind_eq_pure_iff.2 ⟨o, ho, hr⟩⟩
    · cases t with
      | false => exact ⟨_, Run.bind_eq_pure_iff.2 ⟨_, gives_empty_iff.1 hp, rfl⟩, rfl, rfl⟩
      | true =>
        obtain ⟨reply, hrun, hreply⟩ := gives_consumed_iff.1 hp
        refine ⟨_, Run.bind_eq_pure_iff.2 ⟨_, hrun, rfl⟩, rfl, ?_⟩
        exact Run.bind_eq_pure_iff.2 ⟨_, hreply, rfl⟩

/-! ## Alternation

A result is *final* for an alternation unless it is a failure without consumption. It is *clean*
for an attempt unless it is a failure after consumption. -/

/-- A result after which no alternative is tried. -/
def Final (t : Bool) (r : Reply σ α) : Prop := t = true ∨ r.isOk = true

/-- A result that an attempt leaves as it is. -/
def Clean (t : Bool) (r : Reply σ α) : Prop := t = false ∨ r.isOk = true

theorem not_final_error {m : Message σ} : ¬ Final false (.error m : Reply σ α) := by
  rintro (h | h) <;> cases h

theorem Clean.of_error {m : Message σ} (h : Clean t (.error m : Reply σ α)) : t = false :=
  h.resolve_right nofun

theorem Clean.isOk (h : Clean true r) : r.isOk = true := h.resolve_left nofun

theorem clean_map_iff {f : α → β} : Clean t (r.map f) ↔ Clean t r := by
  cases r <;> exact Iff.rfl

/-- A result is final, or a failure without consumption. -/
theorem final_or_error (t : Bool) (r : Reply σ α) :
    Final t r ∨ ∃ m, t = false ∧ r = .error m := by
  match t, r with
  | true, _ => exact .inl (.inl rfl)
  | false, .ok _ _ => exact .inl (.inr rfl)
  | false, .error m => exact .inr ⟨m, rfl, rfl⟩

/-- A final result of the first alternative is the result. -/
theorem run_orElse_of_final {o : Outcome Id σ α} (ho : p.run c = pure o)
    (hf : o.failedEmpty = false) : (p.orElse q).run c = pure o := by
  refine Run.bind_eq_pure_iff.2 ⟨o, ho, ?_⟩
  match o, hf with
  | .consumed _, _ => rfl
  | .empty (.ok _ _), _ => rfl

/-- Behind a failure without consumption, the outcome is that of the other alternative unless it
fails likewise. -/
theorem run_orElse_of_error {m : Message σ} {o : Outcome Id σ α}
    (hp : p.run c = pure (.empty (.error m))) (hq : q.run c = pure o)
    (hf : o.failedEmpty = false) : (p.orElse q).run c = pure o := by
  refine Run.bind_eq_pure_iff.2 ⟨_, hp, Run.bind_eq_pure_iff.2 ⟨o, hq, ?_⟩⟩
  match o, hf with
  | .consumed _, _ => rfl
  | .empty (.ok _ _), _ => rfl

/-- The results that are final are those of outcomes that did not fail empty. -/
theorem gives_final_iff :
    p.Gives c t r ∧ Final t r ↔
      ∃ o, p.run c = pure o ∧ o.failedEmpty = false ∧ o.isConsumed = t ∧ o.takeReply = pure r := by
  constructor
  · rintro ⟨⟨o, ho, rfl, hr⟩, hf⟩
    refine ⟨o, ho, ?_, rfl, hr⟩
    match o, hr, hf with
    | .consumed _, _, _ => rfl
    | .empty (.ok _ _), _, _ => rfl
    | .empty (.error m), hr, hf =>
      obtain rfl := Run.pure_eq_pure.1 hr
      exact absurd hf not_final_error
  · rintro ⟨o, ho, hf, rfl, hr⟩
    refine ⟨⟨o, ho, rfl, hr⟩, ?_⟩
    match o, hf, hr with
    | .consumed _, _, _ => exact .inl rfl
    | .empty (.ok _ _), _, hr =>
      obtain rfl := Run.pure_eq_pure.1 hr
      exact .inr rfl

/-- The second alternative counts where the first one failed without consumption; where both did,
the messages are merged. -/
theorem gives_orElse_iff :
    (p.orElse q).Gives c t r ↔
      (p.Gives c t r ∧ Final t r) ∨
      (∃ m, p.Gives c false (.error m) ∧ q.Gives c t r ∧ Final t r) ∨
      (∃ m n, p.Gives c false (.error m) ∧ q.Gives c false (.error n) ∧ t = false ∧
        r = .error (m.merge n)) := by
  constructor
  · rintro ⟨o, ho, rfl, hr⟩
    obtain ⟨o₁, ho₁, ho⟩ := Run.bind_eq_pure_iff.1 ho
    cases hf₁ : o₁.failedEmpty with
    | false =>
      have hoo : o₁ = o := Run.pure_eq_pure.1
        ((run_orElse_of_final (q := q) ho₁ hf₁).symm.trans (Run.bind_eq_pure_iff.2 ⟨o₁, ho₁, ho⟩))
      subst hoo
      exact .inl (gives_final_iff.2 ⟨o₁, ho₁, hf₁, rfl, hr⟩)
    | true =>
      match o₁, hf₁, ho₁, ho with
      | .empty (.error m), _, ho₁, ho =>
        obtain ⟨o₂, ho₂, ho'⟩ := Run.bind_eq_pure_iff.1 ho
        have hp : p.Gives c false (.error m) := gives_empty_iff.2 ho₁
        match o₂, ho₂, ho' with
        | .empty (.error n), ho₂, ho' =>
          obtain rfl := Run.pure_eq_pure.1 ho'
          obtain rfl := Run.pure_eq_pure.1 hr
          exact .inr (.inr ⟨m, n, hp, gives_empty_iff.2 ho₂, rfl, rfl⟩)
        | .consumed reply, ho₂, ho' =>
          obtain rfl := Run.pure_eq_pure.1 ho'
          exact .inr (.inl ⟨m, hp, gives_final_iff.2 ⟨_, ho₂, rfl, rfl, hr⟩⟩)
        | .empty (.ok a d), ho₂, ho' =>
          obtain rfl := Run.pure_eq_pure.1 ho'
          exact .inr (.inl ⟨m, hp, gives_final_iff.2 ⟨_, ho₂, rfl, rfl, hr⟩⟩)
  · rintro (h | ⟨m, hp, h⟩ | ⟨m, n, hp, hq, rfl, rfl⟩)
    · obtain ⟨o, ho, hf, ht, hr⟩ := gives_final_iff.1 h
      exact ⟨o, run_orElse_of_final ho hf, ht, hr⟩
    · obtain ⟨o, ho, hf, ht, hr⟩ := gives_final_iff.1 h
      exact ⟨o, run_orElse_of_error (gives_empty_iff.1 hp) ho hf, ht, hr⟩
    · refine gives_empty_iff.2 (Run.bind_eq_pure_iff.2 ⟨_, gives_empty_iff.1 hp, ?_⟩)
      exact Run.bind_eq_pure_iff.2 ⟨_, gives_empty_iff.1 hq, rfl⟩

/-- The result of an attempt is that of the parser, but a failure never counts as consumption. -/
theorem gives_attempt_iff :
    p.attempt.Gives c t r ↔
      (p.Gives c t r ∧ Clean t r) ∨
      (∃ m, p.Gives c true (.error m) ∧ t = false ∧ r = .error m) := by
  constructor
  · rintro ⟨o, ho, rfl, hr⟩
    obtain ⟨o₁, ho₁, ho⟩ := Run.bind_eq_pure_iff.1 ho
    cases o₁ with
    | empty s =>
      obtain rfl := Run.pure_eq_pure.1 ho
      exact .inl ⟨⟨_, ho₁, rfl, hr⟩, .inl rfl⟩
    | consumed reply =>
      -- the reply has to be taken: only then it is known whether it is a failure
      obtain ⟨s, hs, ho⟩ := Run.bind_eq_pure_iff.1 ho
      have hp : p.Gives c true s := gives_consumed_iff.2 ⟨reply, ho₁, hs⟩
      cases s with
      | ok a d =>
        obtain rfl := Run.pure_eq_pure.1 ho
        obtain rfl := Run.pure_eq_pure.1 hr
        exact .inl ⟨hp, .inr rfl⟩
      | error m =>
        obtain rfl := Run.pure_eq_pure.1 ho
        obtain rfl := Run.pure_eq_pure.1 hr
        exact .inr ⟨m, hp, rfl, rfl⟩
  · rintro (⟨hp, h⟩ | ⟨m, hp, rfl, rfl⟩)
    · cases t with
      | false => exact gives_empty_iff.2 (Run.bind_eq_pure_iff.2 ⟨_, gives_empty_iff.1 hp, rfl⟩)
      | true =>
        obtain ⟨reply, hrun, hreply⟩ := gives_consumed_iff.1 hp
        cases r with
        | ok a d =>
          refine ⟨.consumedOk a d, Run.bind_eq_pure_iff.2 ⟨_, hrun, ?_⟩, rfl, rfl⟩
          exact Run.bind_eq_pure_iff.2 ⟨_, hreply, rfl⟩
        | error m => rcases h with h | h <;> cases h
    · obtain ⟨reply, hrun, hreply⟩ := gives_consumed_iff.1 hp
      refine gives_empty_iff.2 (Run.bind_eq_pure_iff.2 ⟨_, hrun, ?_⟩)
      exact Run.bind_eq_pure_iff.2 ⟨_, hreply, rfl⟩

/-- A label changes the message of a failure without consumption, and nothing else. -/
theorem gives_label_iff {name : String} :
    (p.label name).Gives c t r ↔
      (p.Gives c t r ∧ Final t r) ∨
      (∃ m, p.Gives c false (.error m) ∧ t = false ∧ r = .error (m.relabel name)) := by
  constructor
  · rintro ⟨o, ho, rfl, hr⟩
    obtain ⟨o₁, ho₁, ho⟩ := Run.bind_eq_pure_iff.1 ho
    match o₁, ho₁, ho with
    | .empty (.error m), ho₁, ho =>
      obtain rfl := Run.pure_eq_pure.1 ho
      obtain rfl := Run.pure_eq_pure.1 hr
      exact .inr ⟨m, gives_empty_iff.2 ho₁, rfl, rfl⟩
    | .consumed reply, ho₁, ho =>
      obtain rfl := Run.pure_eq_pure.1 ho
      exact .inl (gives_final_iff.2 ⟨_, ho₁, rfl, rfl, hr⟩)
    | .empty (.ok a d), ho₁, ho =>
      obtain rfl := Run.pure_eq_pure.1 ho
      exact .inl (gives_final_iff.2 ⟨_, ho₁, rfl, rfl, hr⟩)
  · rintro (h | ⟨m, hp, rfl, rfl⟩)
    · obtain ⟨o, ho, hf, ht, hr⟩ := gives_final_iff.1 h
      refine ⟨o, Run.bind_eq_pure_iff.2 ⟨o, ho, ?_⟩, ht, hr⟩
      match o, hf with
      | .consumed _, _ => rfl
      | .empty (.ok _ _), _ => rfl
    · exact gives_empty_iff.2 (Run.bind_eq_pure_iff.2 ⟨_, gives_empty_iff.1 hp, rfl⟩)

end Parser

end ParserKit
