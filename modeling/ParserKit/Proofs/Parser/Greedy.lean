import ParserKit.Proofs.Laws
import ParserKit.Proofs.Termination

/-!
# Repetition is greedy

A repetition goes along a chain: from each place its item leads to the next one, by a success that
consumed input, and the place where the item does anything else is the last. The chain is determined
by the item and the place where it begins. If all runs of the item end and its consumed successes
advance there is such a chain, for each link of it uses up a symbol.

What the item does at the last place is what tells a repetition that succeeds from one that fails.
Where it consumes nothing the repetition gives the values along the chain, and a value that was
found without consumption is not among them. Where it fails after consumption so does the
repetition.

## Main definitions

* `Parser.Chain p c steps e`: from `c` on `p` succeeds along `steps`, and comes to `e`
* `Parser.Stops p e`: at `e` there is no consumed success of `p`

## Main results

* `Parser.Chain.unique`: there is at most one chain to a place where the item stops
* `Parser.exists_chain`: there is one if the item ends and advances
* `Parser.repeats_append_iff`: values that were read before stand in front of the others
* `Parser.many_greedy`: what a repetition gives
-/

namespace ParserKit

variable {σ α β : Type}

namespace Parser

variable {p : Parser σ α} {c d e : Cursor σ} {steps : List (α × Cursor σ)} {t : Bool}

/-! ## Chains -/

/-- From `c` on the parser succeeds and consumes input again and again, until it has come to `e`.
The steps are the values, each with the cursor behind it. -/
inductive Chain (p : Parser σ α) : Cursor σ → List (α × Cursor σ) → Cursor σ → Prop where
  | nil (c : Cursor σ) : Chain p c [] c
  | cons {c d e : Cursor σ} {a : α} {steps : List (α × Cursor σ)}
      (head : p.Gives c true (.ok a d)) (tail : Chain p d steps e) :
      Chain p c ((a, d) :: steps) e

/-- At the cursor the parser consumes nothing, or it fails after consumption. -/
def Stops (p : Parser σ α) (e : Cursor σ) : Prop :=
  (∃ r, p.Gives e false r) ∨ ∃ m, p.Gives e true (.error m)

/-- A parser that ends at a cursor stops there or goes on. -/
theorem Ends.stops_or (h : p.Ends c) : p.Stops c ∨ ∃ a d, p.Gives c true (.ok a d) := by
  obtain ⟨t, r, hr⟩ := h
  match t, r, hr with
  | false, r, hr => exact .inl (.inl ⟨r, hr⟩)
  | true, .error m, hr => exact .inl (.inr ⟨m, hr⟩)
  | true, .ok a d, hr => exact .inr ⟨a, d, hr⟩

theorem Stops.not_gives {a : α} (h : p.Stops c) : ¬ p.Gives c true (.ok a d) := by
  intro hgives
  obtain ⟨r, hr⟩ | ⟨m, hm⟩ := h
  · cases (hr.unique hgives).1
  · cases (hm.unique hgives).2

/-- There is one chain from a cursor to where it stops. -/
theorem Chain.unique {steps' : List (α × Cursor σ)} {e' : Cursor σ} (h : p.Chain c steps e)
    (he : p.Stops e) (h' : p.Chain c steps' e') (he' : p.Stops e') : steps' = steps ∧ e' = e := by
  induction h generalizing steps' with
  | nil c =>
    cases h' with
    | nil => exact ⟨rfl, rfl⟩
    | cons head tail => exact absurd head he.not_gives
  | cons head tail ih =>
    cases h' with
    | nil => exact absurd head he'.not_gives
    | cons head' tail' =>
      cases (head'.unique head).2
      obtain ⟨rfl, rfl⟩ := ih he tail'
      exact ⟨rfl, rfl⟩

/-- Each step of a chain uses up a symbol. -/
theorem Chain.length_le (h : p.Chain c steps e) (ha : p.Advances) :
    steps.length + e.left ≤ c.left := by
  induction h with
  | nil => simp
  | cons head _ ih =>
    have hlt := (ha _ _ _ head).left_lt
    simp only [List.length_cons]
    omega

/-- From every place a chain leads to one where the parser stops. -/
theorem exists_chain (hends : ∀ c, p.Ends c) (ha : p.Advances) (c : Cursor σ) :
    ∃ steps e, p.Chain c steps e ∧ p.Stops e := by
  induction hleft : c.left using Nat.strong_induction_on generalizing c with
  | _ left ih =>
    obtain hstops | ⟨a, d, hgives⟩ := (hends c).stops_or
    · exact ⟨[], c, .nil c, hstops⟩
    · have hlt : d.left < left := hleft ▸ (ha _ _ _ hgives).left_lt
      obtain ⟨steps, e, hchain, hstops⟩ := ih d.left hlt d rfl
      exact ⟨(a, d) :: steps, e, .cons hgives hchain, hstops⟩

/-! ## Rounds along a chain -/

/-- Rounds along a chain, and then one that consumes nothing. -/
theorem Chain.repeats_stop {r : Reply σ α} (h : p.Chain c steps e) (he : p.Gives e false r)
    (vs : List α) :
    p.Repeats c vs (!steps.isEmpty) (.ok (vs ++ steps.map Prod.fst) e) steps.length := by
  induction h generalizing vs with
  | nil c =>
    rw [List.map_nil, List.append_nil]
    exact .stop he
  | @cons c d e a steps head tail ih =>
    have hrounds := ih he (vs ++ [a])
    rw [List.append_assoc] at hrounds
    exact .next head hrounds

/-- Rounds along a chain, and then one that fails after consumption. -/
theorem Chain.repeats_fail {m : Message σ} (h : p.Chain c steps e) (he : p.Gives e true (.error m))
    (vs : List α) : p.Repeats c vs true (.error m) (steps.length + 1) := by
  induction h generalizing vs with
  | nil c => exact .fail he
  | cons head tail ih => exact .next head (ih he _)

/-- Values that were read before the rounds stand in front of those read in them. -/
theorem repeats_append_iff (us vs : List α) {r : Reply σ (List α)} {n : Nat} :
    p.Repeats c (us ++ vs) t r n ↔ ∃ s, p.Repeats c vs t s n ∧ r = s.map (us ++ ·) := by
  constructor
  · intro h
    generalize hws : us ++ vs = ws at h
    induction h generalizing vs with
    | stop hgives =>
      subst hws
      exact ⟨_, .stop hgives, rfl⟩
    | fail hgives => exact ⟨_, .fail hgives, rfl⟩
    | @next _ _ _ a _ _ _ hgives _ ih =>
      obtain ⟨s, hs, rfl⟩ := ih (vs ++ [a]) (by rw [← hws, List.append_assoc])
      exact ⟨s, .next hgives hs, rfl⟩
  · rintro ⟨s, h, rfl⟩
    induction h with
    | stop hgives => exact .stop hgives
    | fail hgives => exact .fail hgives
    | next hgives _ ih =>
      rw [← List.append_assoc] at ih
      exact .next hgives ih

/-! ## What a repetition gives -/

/-- Parsers that give the same result are seen to do the same. -/
theorem Gives.sight_eq {q : Parser σ α} {r : Reply σ α} (hp : p.Gives c t r) (hq : q.Gives c t r) :
    p.sight c = q.sight c := by
  obtain ⟨o, ho, rfl, hr⟩ := hp
  obtain ⟨o', ho', htag, hr'⟩ := hq
  have hfailed : o.failedEmpty = o'.failedEmpty := by
    match o, o', htag, hr, hr' with
    | .consumed _, .consumed _, _, _, _ => rfl
    | .empty s, .empty s', _, hr, hr' =>
      cases Run.pure_eq_pure.1 hr
      cases Run.pure_eq_pure.1 hr'
      rfl
  simp only [sight, ho, ho', map_pure, Outcome.sight_eq, htag, hfailed, hr, hr']

/-- Where its item does not give up without consumption, a repetition runs the item and then repeats
it. -/
theorem Advances.gives_many_iff_bind (ha : p.Advances) (hc : ∀ s, ¬ p.Gives c false s)
    {r : Reply σ (List α)} :
    p.many.Gives c t r ↔ (p.bind fun a => p.many.map (a :: ·)).Gives c t r := by
  have happend {d : Cursor σ} {a : α} {t : Bool} {r : Reply σ (List α)} {n : Nat} :
      p.Repeats d [a] t r n ↔ ∃ s, p.Repeats d [] t s n ∧ r = s.map (a :: ·) :=
    repeats_append_iff [a] []
  rw [many_eq_repeatBehind, ha.gives_repeatBehind_iff, gives_bind_iff]
  constructor
  · rintro ⟨n, h⟩
    cases h with
    | stop hgives => exact absurd hgives (hc _)
    | fail hgives => exact .inr (.inr ⟨_, hgives, rfl⟩)
    | @next _ d _ a u _ n hgives rounds =>
      obtain ⟨s, hs, rfl⟩ := happend.1 rounds
      have hrest : (p.many.map (a :: ·)).Gives d u (s.map (a :: ·)) :=
        gives_map_iff.2 ⟨s, ha.gives_repeatBehind_iff.2 ⟨n, hs⟩, rfl⟩
      exact .inr (.inl ⟨a, d, u, hgives, hrest, rfl⟩)
  · rintro (⟨a, d, hgives, -⟩ | ⟨a, d, u, hgives, hrest, rfl⟩ | ⟨m, hgives, rfl⟩)
    · exact absurd hgives (hc _)
    · obtain ⟨s, hs, rfl⟩ := gives_map_iff.1 hrest
      obtain ⟨n, hrounds⟩ := ha.gives_repeatBehind_iff.1 hs
      exact ⟨n + 1, .next hgives (happend.2 ⟨s, hrounds, rfl⟩)⟩
    · cases t with
      | false => exact absurd hgives (hc _)
      | true => exact ⟨1, .fail hgives⟩

/-- Let all runs of a parser end, and its consumed successes advance. Then from every cursor there
is exactly one chain to a place where the parser stops, with no more steps than symbols are left. If
the parser consumes nothing at the end of the chain its repetition succeeds there with the values
along the chain, and has consumed input if there are any; if it fails after consumption so does the
repetition, with the same message. In particular, where the parser consumes input its repetition
does the same as running it and then repeating it. -/
theorem many_greedy (hends : ∀ c, p.Ends c) (ha : p.Advances) (c : Cursor σ) :
    (∃ steps e, p.Chain c steps e ∧ p.Stops e ∧ steps.length ≤ c.left ∧
      (∀ steps' e', p.Chain c steps' e' → p.Stops e' → steps' = steps ∧ e' = e) ∧
      (∀ r, p.Gives e false r → p.many.Gives c (!steps.isEmpty) (.ok (steps.map Prod.fst) e)) ∧
      ∀ m, p.Gives e true (.error m) → p.many.Gives c true (.error m)) ∧
    ∀ reply, p.run c = pure (.consumed reply) →
      p.many.sight c = (p.bind fun a => p.many.map (a :: ·)).sight c := by
  constructor
  · obtain ⟨steps, e, hchain, hstops⟩ := exists_chain hends ha c
    have hlen := hchain.length_le ha
    refine ⟨steps, e, hchain, hstops, by omega, ?_, fun r hr => ?_, fun m hm => ?_⟩
    · exact fun steps' e' hchain' hstops' => hchain.unique hstops hchain' hstops'
    · exact ha.gives_repeatBehind_iff.2 ⟨_, hchain.repeats_stop hr []⟩
    · exact ha.gives_repeatBehind_iff.2 ⟨_, hchain.repeats_fail hm []⟩
  · intro reply hrun
    have hconsumed (s : Reply σ α) : ¬ p.Gives c false s := fun h =>
      nomatch Run.pure_eq_pure.1 (hrun.symm.trans (gives_empty_iff.1 h))
    obtain ⟨t, r, hgives⟩ := ha.ends_repeatBehind ⟨hends c, fun d _ => hends d⟩ []
    exact hgives.sight_eq ((ha.gives_many_iff_bind hconsumed).1 hgives)

/-- An `a` and then a `b`, or a dash that is not in the input. -/
def pair : Parser Char Char :=
  ((satisfy (· == 'a')).seqRight (satisfy (· == 'b'))).orElse (retn '-')

theorem pair_ends (c : Cursor Char) : pair.Ends c := by
  have hboth : ((satisfy (· == 'a')).bind fun _ => satisfy (· == 'b')).Ends c :=
    (ends_satisfy _ c).bind fun _ => ends_satisfy _ _
  exact hboth.orElse (ends_retn _ c)

theorem pair_advances : pair.Advances := by
  have hboth : MessageLaw.any.Keeps ((satisfy (· == 'a')).bind fun _ => satisfy (· == 'b')) :=
    MessageLaw.Keeps.bind (MessageLaw.keeps_satisfy _) fun _ => MessageLaw.keeps_satisfy _
  have hpair : MessageLaw.any.Keeps pair :=
    MessageLaw.Keeps.orElse hboth (MessageLaw.keeps_retn '-')
  exact fun c a d h => hpair h

/-- The dash that is found behind the last pair is not a value of the repetition, and an `a` without
a `b` makes it fail. -/
theorem many_greedy_of_pair :
    (∃ steps e, pair.Chain (.start 0 #['a', 'b', 'a', 'b', 'c']) steps e ∧ pair.Stops e ∧
      e.position = 4 ∧
      pair.many.Gives (.start 0 #['a', 'b', 'a', 'b', 'c']) true (.ok ['b', 'b'] e)) ∧
    (∃ m, pair.many.Gives (.start 0 #['a', 'b', 'a', 'c']) true (.error m) ∧ m.position = 3) ∧
    pair.many.sight (.start 0 #['a', 'b', 'c']) =
      (pair.bind fun a => pair.many.map (a :: ·)).sight (.start 0 #['a', 'b', 'c']) := by
  refine ⟨?_, ?_, ?_⟩
  · obtain ⟨⟨steps, e, hchain, hstops, -, hunique, hgives, -⟩, -⟩ :=
      many_greedy pair_ends pair_advances (.start 0 #['a', 'b', 'a', 'b', 'c'])
    have hpairs : pair.Chain (.start 0 #['a', 'b', 'a', 'b', 'c']) _ _ :=
      .cons ⟨_, rfl, rfl, rfl⟩ (.cons ⟨_, rfl, rfl, rfl⟩ (.nil _))
    obtain ⟨rfl, rfl⟩ := hunique _ _ hpairs (.inl ⟨_, _, rfl, rfl, rfl⟩)
    exact ⟨_, _, hchain, hstops, rfl, hgives _ ⟨_, rfl, rfl, rfl⟩⟩
  · obtain ⟨⟨steps, e, -, -, -, hunique, -, hfails⟩, -⟩ :=
      many_greedy pair_ends pair_advances (.start 0 #['a', 'b', 'a', 'c'])
    have hpairs : pair.Chain (.start 0 #['a', 'b', 'a', 'c']) _ _ :=
      .cons ⟨_, rfl, rfl, rfl⟩ (.nil _)
    obtain ⟨rfl, rfl⟩ := hunique _ _ hpairs (.inr ⟨_, _, rfl, rfl, rfl⟩)
    exact ⟨_, hfails _ ⟨_, rfl, rfl, rfl⟩, rfl⟩
  · exact (many_greedy pair_ends pair_advances (.start 0 #['a', 'b', 'c'])).2 _ rfl

end Parser

end ParserKit
