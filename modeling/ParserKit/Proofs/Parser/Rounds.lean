import ParserKit.Proofs.Parser.Results

/-!
# What a repetition gives

A repetition runs its item round after round and stops at the first round that consumes nothing.
`Parser.Repeats` is this as a relation, one constructor for each way a round can go, with the
number of replies that were taken. The loop has a bound on that number; it gives exactly the
results of the relation within the bound. An item whose consumed successes advance uses up
symbols, so for it the bound is no restriction.

## Main definitions

* `Parser.repeatBehind item vs`: the repetition of `item` behind the values `vs`
* `Parser.Repeats item c vs t r n`: `n` replies of `item` from `c` on lead to the result `t`, `r`
* `Parser.Advances item`: consumed successes of `item` stand further along

## Main results

* `Parser.gives_repeatBehind_iff`: the repetition gives what the relation says, within the bound
* `Parser.Repeats.count_le`: an item that advances stays within the bound
-/

namespace ParserKit.Parser

variable {σ α β : Type} {item : Parser σ α} {c d : Cursor σ} {vs : List α} {t : Bool}
  {r : Reply σ (List α)} {n : Nat}

/-! ## Repetitions behind values -/

/-- The repetition of `item`, behind the values `vs`. -/
def repeatBehind (item : Parser σ α) (vs : List α) : Parser σ (List α) :=
  ⟨fun c => repeatFrom item c vs⟩

theorem many_eq_repeatBehind (p : Parser σ α) : p.many = p.repeatBehind [] := rfl

theorem many1_eq_bind (p : Parser σ α) : p.many1 = p.bind fun a => p.repeatBehind [a] := rfl

theorem sepBy1_eq_bind (p : Parser σ α) (sep : Parser σ β) :
    p.sepBy1 sep = p.bind fun a => (sep.bind fun _ => p).repeatBehind [a] :=
  rfl

/-! ## Rounds -/

/-- From `c` on, behind the values `vs`, repeating `item` takes `n` replies and ends with the tag
`t` and the reply `r`. -/
inductive Repeats (item : Parser σ α) :
    Cursor σ → List α → Bool → Reply σ (List α) → Nat → Prop where
  /-- A round that consumes nothing is the last one, and its value is dropped. -/
  | stop {c : Cursor σ} {vs : List α} {s : Reply σ α} (h : item.Gives c false s) :
      Repeats item c vs false (.ok vs c) 0
  /-- A failure after consumption is the result. -/
  | fail {c : Cursor σ} {vs : List α} {m : Message σ} (h : item.Gives c true (.error m)) :
      Repeats item c vs true (.error m) 1
  /-- A consumed success is followed by the next round. -/
  | next {c d : Cursor σ} {vs : List α} {a : α} {t : Bool} {r : Reply σ (List α)} {n : Nat}
      (h : item.Gives c true (.ok a d)) (rounds : Repeats item d (vs ++ [a]) t r n) :
      Repeats item c vs true r (n + 1)

theorem Repeats.exists_run (h : item.Repeats c vs true r n) :
    ∃ reply, item.run c = pure (.consumed reply) := by
  cases h with
  | fail h | next h =>
    obtain ⟨reply, hrun, -⟩ := gives_consumed_iff.1 h
    exact ⟨reply, hrun⟩

/-- Once round the loop: the reply is a failure, or the next round is the last one, or the loop
goes on. -/
theorem repeatLoop_succ_eq_pure_iff {bound : Nat} {reply : Deferred Id (Reply σ α)}
    {before : List α} (hrun : item.run c = pure (.consumed reply)) :
    repeatLoop item (bound + 1) reply before = pure r ↔
      (∃ m, item.Gives c true (.error m) ∧ r = .error m) ∨
      (∃ a d s, item.Gives c true (.ok a d) ∧ item.Gives d false s ∧
        r = .ok (a :: before).reverse d) ∨
      (∃ a d reply', item.Gives c true (.ok a d) ∧ item.run d = pure (.consumed reply') ∧
        repeatLoop item bound reply' (a :: before) = pure r) := by
  constructor
  · intro h
    obtain ⟨s, hs, h⟩ := Run.bind_eq_pure_iff.1 h
    have hgives := (gives_consumed_iff_of_run hrun).2 hs
    cases s with
    | error m => exact .inl ⟨m, hgives, (Run.pure_eq_pure.1 h).symm⟩
    | ok a d =>
      obtain ⟨o, ho, h⟩ := Run.bind_eq_pure_iff.1 h
      cases o with
      | empty s =>
        exact .inr (.inl ⟨a, d, s, hgives, gives_empty_iff.2 ho, (Run.pure_eq_pure.1 h).symm⟩)
      | consumed reply' => exact .inr (.inr ⟨a, d, reply', hgives, ho, h⟩)
  · rintro (⟨m, hgives, rfl⟩ | ⟨a, d, s, hgives, hd, rfl⟩ | ⟨a, d, reply', hgives, hd, h⟩)
    · exact Run.bind_eq_pure_iff.2 ⟨_, (gives_consumed_iff_of_run hrun).1 hgives, rfl⟩
    · refine Run.bind_eq_pure_iff.2 ⟨_, (gives_consumed_iff_of_run hrun).1 hgives, ?_⟩
      exact Run.bind_eq_pure_iff.2 ⟨_, gives_empty_iff.1 hd, rfl⟩
    · refine Run.bind_eq_pure_iff.2 ⟨_, (gives_consumed_iff_of_run hrun).1 hgives, ?_⟩
      exact Run.bind_eq_pure_iff.2 ⟨_, hd, h⟩

/-- The loop behind a consumed run gives what the rounds lead to, within its bound. -/
theorem repeatLoop_eq_pure_iff {bound : Nat} {reply : Deferred Id (Reply σ α)}
    (hrun : item.run c = pure (.consumed reply)) :
    repeatLoop item bound reply vs.reverse = pure r ↔
      ∃ n, n ≤ bound ∧ item.Repeats c vs true r n := by
  induction bound generalizing c vs reply with
  | zero =>
    constructor
    · intro h
      exact absurd h Run.exhausted_ne_pure
    · -- rounds that begin with a consumed run take at least one reply
      rintro ⟨n, hn, h⟩
      cases h <;> omega
  | succ bound ih =>
    have hrev (a : α) : a :: vs.reverse = (vs ++ [a]).reverse := by simp
    rw [repeatLoop_succ_eq_pure_iff hrun]
    constructor
    · rintro (⟨m, hgives, rfl⟩ | ⟨a, d, s, hgives, hd, rfl⟩ | ⟨a, d, reply', hgives, hd, h⟩)
      · exact ⟨1, by omega, .fail hgives⟩
      · rw [hrev, List.reverse_reverse]
        exact ⟨1, by omega, .next hgives (.stop hd)⟩
      · rw [hrev] at h
        obtain ⟨n, hn, hrounds⟩ := (ih hd).1 h
        exact ⟨n + 1, by omega, .next hgives hrounds⟩
    · rintro ⟨n, hn, h⟩
      cases h with
      | fail hgives => exact .inl ⟨_, hgives, rfl⟩
      | @next _ d _ a t _ n hgives hrounds =>
        -- the tag of the rounds behind tells whether the loop goes on
        cases t with
        | false =>
          cases hrounds with
          | stop hd => exact .inr (.inl ⟨a, d, _, hgives, hd, by simp⟩)
        | true =>
          obtain ⟨reply', hd⟩ := hrounds.exists_run
          refine .inr (.inr ⟨a, d, reply', hgives, hd, ?_⟩)
          rw [hrev]
          exact (ih hd).2 ⟨n, by omega, hrounds⟩

/-- A repetition gives what its rounds lead to, as long as they are at most one more than there
are symbols left. -/
theorem gives_repeatBehind_iff :
    (item.repeatBehind vs).Gives c t r ↔ ∃ n, n ≤ c.left + 1 ∧ item.Repeats c vs t r n := by
  constructor
  · rintro ⟨o, ho, rfl, hr⟩
    obtain ⟨o₁, ho₁, ho⟩ := Run.bind_eq_pure_iff.1 ho
    cases o₁ with
    | consumed reply =>
      obtain rfl := Run.pure_eq_pure.1 ho
      exact (repeatLoop_eq_pure_iff ho₁).1 hr
    | empty s =>
      obtain rfl := Run.pure_eq_pure.1 ho
      obtain rfl := Run.pure_eq_pure.1 hr
      exact ⟨0, Nat.zero_le _, .stop (gives_empty_iff.2 ho₁)⟩
  · rintro ⟨n, hn, h⟩
    cases t with
    | false =>
      cases h with
      | stop hs => exact gives_empty_iff.2 (Run.bind_eq_pure_iff.2 ⟨_, gives_empty_iff.1 hs, rfl⟩)
    | true =>
      obtain ⟨reply, hrun⟩ := h.exists_run
      refine ⟨_, Run.bind_eq_pure_iff.2 ⟨_, hrun, rfl⟩, rfl, ?_⟩
      exact (repeatLoop_eq_pure_iff hrun).2 ⟨n, hn, h⟩

/-! ## Items that advance -/

/-- Consumed successes of the parser stand further along. -/
def Advances (p : Parser σ α) : Prop := ∀ c a d, p.Gives c true (.ok a d) → c.Before d

/-- Each round of an item that advances uses up a symbol, so the bound is never reached. -/
theorem Repeats.count_le (h : item.Repeats c vs t r n) (ha : item.Advances) : n ≤ c.left + 1 := by
  induction h with
  | stop => omega
  | fail => omega
  | next hgives _ ih =>
    have hlt := (ha _ _ _ hgives).left_lt
    omega

theorem Advances.gives_repeatBehind_iff (ha : item.Advances) :
    (item.repeatBehind vs).Gives c t r ↔ ∃ n, item.Repeats c vs t r n := by
  rw [Parser.gives_repeatBehind_iff]
  constructor
  · rintro ⟨n, -, h⟩
    exact ⟨n, h⟩
  · rintro ⟨n, h⟩
    exact ⟨n, h.count_le ha, h⟩

end ParserKit.Parser
