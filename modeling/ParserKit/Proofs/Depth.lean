import Mathlib.Order.Interval.Finset.Nat
import ParserKit.Proofs.Lookahead
import ParserKit.Proofs.Parser.Onward
import ParserKit.Proofs.Termination

/-!
# Room for calls

A parser has room for a number of nested calls that depends on the rules and on the symbols left. A
run that needs more has no end: no room for calls would be enough for it. So what is seen of a
parser is what is seen with any more room for calls, and it has no end exactly if it has none at any
depth.

What counts are the definitions, each at all places from the one where the run begins. With more
room for calls a definition at a place comes first to an outcome and then to its reply, and stays
there. So the places where it has done so grow, and as soon as one more call changes nothing no
other one will. There would be two changes for each definition and place, though, and there is
room for one. But where the reply has no end with any room, it is the outcome that matters, and
elsewhere it is the reply: replies depend on replies alone. So each definition is *settled* at
each place at most once.

Definitions may contain parsers made by other means, as long as their successes do not go back.

## Main definitions

* `Rules.places`, `Rules.body`: the definitions, each at all places, with room for calls
* `Rules.settled`: where a definition has come to its reply, or to an outcome without one

## Main results

* `Rules.replies_step`: if one more call leads to no more replies, neither do two
* `Rules.sight_eq_of_settled_eq`: if one more call settles no more definitions, it changes nothing
* `Rules.sight_definition_eq`, `Rules.sight_toParser_call`: a definition and a grammar have as much
  room for calls as they need
* `Rules.sight_parser_eq`: so has a parser over the combinators alone
* `Rules.run_eq_exhausted_iff`, `Rules.parse_eq_exhausted_iff`: it has no end if it has none at any
  depth
-/

namespace ParserKit

variable {σ : Type} {ρ : Type → Type} {α : Type}

/-! ## More room for calls -/

namespace Link

variable {e : Cursor σ} {p q : Parser σ α}

theorem deeper_refl (p : Parser σ α) : deeper.Parsers p p := by
  have hreplies (r : Reply σ α) : deeper.Replies r r := by
    cases r with
    | ok a c => exact .ok a rfl
    | error m => exact .error rfl
  rintro c _ rfl
  refine .refl (fun _ => rfl) (fun o => ?_) _
  cases o with
  | empty r => exact .empty (hreplies r)
  | consumed reply => exact .consumed fun _ => .refl (fun _ => rfl) hreplies _

/-- With more room for calls nothing else is seen, once there is a reply. -/
theorem sight_eq_of_deeper (h : deeper.Parsers p q) (hp : p.parse e ≠ Run.exhausted) :
    p.sight e = q.sight e := by
  have hrun : deeper.Parses (p.run e) (q.run e) := h rfl
  rw [Parser.parse] at hp
  rw [Parser.sight, Parser.sight]
  generalize p.run e = x at hrun hp
  generalize q.run e = y at hrun
  cases hrun with
  | fault hf => exact congrArg (fun f => Run.fault f) hf
  | exhausted => rfl
  | early => exact absurd rfl hp
  | done ho =>
    refine congrArg Except.ok ?_
    cases ho with
    | empty hr =>
      cases hr with
      | ok a hc => rw [hc]
      | error hm => rw [hm]
    | @consumed x y hr =>
      have htake : id <$> x.take = id <$> y.take := by
        refine (hr trivial).map_eq id (fun _ => hp) fun r s hrs => ?_
        cases hrs with
        | ok a hc => exact congrArg (Reply.ok a) hc
        | error hm => exact congrArg Reply.error hm
      rw [id_map, id_map] at htake
      simp only [Outcome.sight_eq, Outcome.takeReply, htake]
      rfl

end Link

/-- Of a run with a tag but no reply the tag is seen: it is that of an outcome that is consumed. -/
theorem Parser.sight_of_parse_eq_exhausted {p : Parser σ α} {e : Cursor σ}
    (hrun : p.run e ≠ Run.exhausted) (hparse : p.parse e = Run.exhausted) :
    p.sight e = pure ⟨true, false, .error .exhausted⟩ := by
  rw [parse] at hparse
  rw [sight]
  cases hx : p.run e with
  | error halt =>
    rw [hx] at hparse
    have hhalt : p.run e = Run.exhausted :=
      hx.trans (congrArg Except.error (Except.error.inj hparse))
    exact absurd hhalt hrun
  | ok o =>
    rw [hx] at hparse
    cases o with
    | empty r => cases hparse
    | consumed reply =>
      have htake : reply.take = Run.exhausted := hparse
      refine congrArg Except.ok ?_
      rw [Outcome.sight_eq, Outcome.takeReply, htake]
      rfl

namespace Rules

variable {P : {α : Type} → Parser σ α → Prop} {rules : Rules σ ρ} {c e : Cursor σ} {n m : Nat}

/-- A reference with more room for calls inside does the same wherever the other one comes to an
end. -/
theorem Parametric.deeper_call (hrules : rules.Parametric P) (hnm : n ≤ m) (r : ρ α) :
    Link.deeper.Parsers (rules.call n r) (rules.call m r) :=
  hrules.parsers_call trivial (fun p _ => Link.deeper_refl p) (.inr ⟨trivial, hnm⟩) r

theorem Parametric.deeper_toParser (hrules : rules.Parametric P) {g : Grammar σ ρ α}
    (hg : g.Parametric P) (hnm : n ≤ m) :
    Link.deeper.Parsers (g.toParser fun r => rules.call n r)
      (g.toParser fun r => rules.call m r) :=
  hg _ (Link.compatibleOver trivial fun p _ => Link.deeper_refl p) _ _
    fun r => hrules.deeper_call hnm r

end Rules

/-! ## Definitions and places -/

/-- There is one cursor for each symbol that is left, and one at the end. -/
theorem Cursor.ncard_reaches (c : Cursor σ) :
    {d | c.Reaches d}.Finite ∧ {d | c.Reaches d}.ncard ≤ c.left + 1 := by
  have hmaps (d : Cursor σ) (hd : c.Reaches d) :
      d.position ∈ (Finset.Icc c.position c.length : Set Nat) := by
    have hle := d.position_le
    rw [hd.1] at hle
    exact Finset.mem_coe.2 (Finset.mem_Icc.2 ⟨hd.2, hle⟩)
  have hinj : Set.InjOn Cursor.position {d | c.Reaches d} :=
    fun d hd e he h => eq_of_position (hd.1.trans he.1.symm) h
  have hfin : (Finset.Icc c.position c.length : Set Nat).Finite := Finset.finite_toSet _
  refine ⟨.of_injOn hmaps hinj hfin, (Set.ncard_le_ncard_of_injOn _ hmaps hinj hfin).trans ?_⟩
  have hle := c.position_le
  rw [Set.ncard_coe_finset, Nat.card_Icc]
  simp only [left, length] at hle ⊢
  omega

namespace Rules

variable {rules : Rules σ ρ} {c e : Cursor σ} {n m : Nat}

/-- The definitions, each at all places from `c` on. -/
def places (rules : Rules σ ρ) (c : Cursor σ) :
    Set (((α : Type) × Grammar σ ρ α) × Cursor σ) :=
  rules.definitions ×ˢ {e | c.Reaches e}

theorem Counted.finite_places (hcounted : rules.Counted) (c : Cursor σ) :
    (rules.places c).Finite :=
  hcounted.finite.prod c.ncard_reaches.1

theorem Counted.ncard_places (hcounted : rules.Counted) (c : Cursor σ) :
    (rules.places c).ncard ≤ rules.count * (c.left + 1) := by
  rw [places, Set.ncard_prod]
  exact Nat.mul_le_mul hcounted.ncard_le c.ncard_reaches.2

/-- A definition, with room for `n` calls. -/
def body (rules : Rules σ ρ) (n : Nat) (x : (α : Type) × Grammar σ ρ α) : Parser σ x.1 :=
  x.2.toParser fun r => rules.call n r

/-- Where a definition has come to its reply with room for `n` calls; or to an outcome whose reply
has no end with any room. -/
def settled (rules : Rules σ ρ) (c : Cursor σ) (n : Nat) :
    Set (((α : Type) × Grammar σ ρ α) × Cursor σ) :=
  {x ∈ rules.places c | (rules.body n x.1).parse x.2 ≠ Run.exhausted ∨
    (∀ m, (rules.body m x.1).parse x.2 = Run.exhausted) ∧
      (rules.body n x.1).run x.2 ≠ Run.exhausted}

section Places

variable (hrules : rules.Parametric Parser.Onward)
  {x : ((α : Type) × Grammar σ ρ α) × Cursor σ}

include hrules

theorem deeper_body (hx : x ∈ rules.places c) (hnm : n ≤ m) :
    Link.deeper.Parsers (rules.body n x.1) (rules.body m x.1) := by
  obtain ⟨⟨r, hr⟩, -⟩ := hx
  exact hrules.deeper_toParser (hrules r _ hr) hnm

/-- What the calls are related by, the definitions are. -/
theorem body_related {R : {α : Type} → Parser σ α → Parser σ α → Prop}
    (hR : CompatibleOver Parser.Onward R)
    (hcall : ∀ {α : Type} (r : ρ α), R (rules.call n r) (rules.call m r))
    (hx : x ∈ rules.places c) : R (rules.body n x.1) (rules.body m x.1) := by
  obtain ⟨⟨r, hr⟩, -⟩ := hx
  exact hrules r _ hr R hR _ _ fun r => hcall r

theorem onward_body (hx : x ∈ rules.places c) (n : Nat) (d : Cursor σ) :
    (Link.onward d).Parsers (rules.body n x.1) (rules.body n x.1) :=
  body_related hrules (Link.compatibleOver trivial fun _ hp => hp d)
    (hrules.parsers_call trivial (fun _ hp => hp d) (.inl rfl)) hx

/-- Where the same is seen of a definition with room for `n` and `m` calls, it does the same. -/
theorem parses_body (hx : x ∈ rules.places c)
    (h : (rules.body n x.1).sight x.2 = (rules.body m x.1).sight x.2) :
    (Link.onward c).Parses ((rules.body n x.1).run x.2) ((rules.body m x.1).run x.2) :=
  Link.parses_of_sight (onward_body hrules hx n c ⟨rfl, hx.2⟩) h

/-- If one more call leads to no more replies, neither do two. -/
theorem replies_step
    (h : ∀ x ∈ rules.places c, (rules.body (n + 1) x.1).parse x.2 ≠ Run.exhausted →
      (rules.body n x.1).parse x.2 ≠ Run.exhausted) (hx : x ∈ rules.places c)
    (hne : (rules.body (n + 2) x.1).parse x.2 ≠ Run.exhausted) :
    (rules.body (n + 1) x.1).parse x.2 ≠ Run.exhausted := by
  have hcall {α : Type} (r : ρ α) :
      Link.Backed c (rules.call (n + 1) r) (rules.call (n + 2) r) := by
    intro e hce hne
    cases hfind : rules.find r with
    | unassigned =>
      simp only [call, hfind]
      exact .fault rfl
    | dropped =>
      simp only [call, hfind]
      exact .fault rfl
    | known g =>
      -- the deeper call comes to its reply, so the other one does, and then they do the same
      rw [call_succ_of_known hfind] at hne ⊢
      rw [call_succ_of_known hfind]
      have hplace : (⟨⟨α, g⟩, e⟩ : _ × Cursor σ) ∈ rules.places c := ⟨⟨r, hfind⟩, hce⟩
      refine parses_body hrules hplace ?_
      exact Link.sight_eq_of_deeper (deeper_body hrules hplace n.le_succ) (h _ hplace hne)
  have hcompatible : CompatibleOver Parser.Onward
      fun {_} (p q : Parser σ _) => Link.Backed c p q :=
    { compatible := Link.Backed.compatible c
      made := fun _ hp => Link.Backed.of_parsers (hp c) }
  have hbacked : Link.Backed c (rules.body (n + 1) x.1) (rules.body (n + 2) x.1) :=
    body_related hrules hcompatible hcall hx
  rwa [Parser.parse_eq_of_sight (Link.sight_eq_of_parses (hbacked hx.2 hne))]

/-- If one more call settles no more definitions, it changes nothing. -/
theorem sight_eq_of_settled_eq (h : rules.settled c n = rules.settled c (n + 1))
    (hx : x ∈ rules.places c) :
    (rules.body n x.1).sight x.2 = (rules.body (n + 1) x.1).sight x.2 := by
  -- no definition comes to a reply with more room that it does not come to with room for `n` calls
  have hreplies (k : Nat) : ∀ x ∈ rules.places c,
      (rules.body (n + k + 1) x.1).parse x.2 ≠ Run.exhausted →
        (rules.body (n + k) x.1).parse x.2 ≠ Run.exhausted := by
    induction k with
    | zero =>
      intro x hx hne
      have hsettled : x ∈ rules.settled c n := h ▸ ⟨hx, .inl hne⟩
      exact hsettled.2.resolve_right fun hnever => hne (hnever.1 _)
    | succ k ih => exact fun x hx => replies_step hrules ih hx
  by_cases hne : (rules.body n x.1).parse x.2 ≠ Run.exhausted
  · exact Link.sight_eq_of_deeper (deeper_body hrules hx n.le_succ) hne
  · -- a definition without a reply has none with any room, and then it is the outcome that counts
    have hnever (m : Nat) : (rules.body m x.1).parse x.2 = Run.exhausted := by
      by_contra hm
      rcases Nat.le_total n m with hnm | hmn
      · obtain ⟨k, rfl⟩ := Nat.exists_eq_add_of_le hnm
        induction k with
        | zero => exact hne hm
        | succ k ih => exact ih (hreplies k x hx hm) (Nat.le_add_right _ _)
      · rw [Parser.parse_eq_of_sight
          (Link.sight_eq_of_deeper (deeper_body hrules hx hmn) hm)] at hm
        exact hne hm
    by_cases hrun : (rules.body (n + 1) x.1).run x.2 = Run.exhausted
    · have hrun' := (deeper_body hrules hx n.le_succ rfl).eq_exhausted hrun
      rw [Parser.sight, Parser.sight, hrun, hrun']
    · have hsettled : x ∈ rules.settled c n := h ▸ ⟨hx, .inr ⟨hnever, hrun⟩⟩
      have hrun' := (hsettled.2.resolve_left fun hp => hp (hnever n)).2
      rw [Parser.sight_of_parse_eq_exhausted hrun (hnever _),
        Parser.sight_of_parse_eq_exhausted hrun' (hnever _)]

/-- If one more call changes nothing, neither does another one. -/
theorem sight_step
    (h : ∀ x ∈ rules.places c, (rules.body n x.1).sight x.2 = (rules.body m x.1).sight x.2)
    (hx : x ∈ rules.places c) :
    (rules.body (n + 1) x.1).sight x.2 = (rules.body (m + 1) x.1).sight x.2 := by
  have hcall {α : Type} (r : ρ α) :
      (Link.onward c).Parsers (rules.call (n + 1) r) (rules.call (m + 1) r) := by
    refine Link.parsers_call_succ fun g hg => ?_
    rintro e _ ⟨rfl, hce⟩
    have hplace : (⟨⟨α, g⟩, e⟩ : _ × Cursor σ) ∈ rules.places c := ⟨⟨r, hg⟩, hce⟩
    exact parses_body hrules hplace (h _ hplace)
  have hbody : (Link.onward c).Parsers (rules.body (n + 1) x.1) (rules.body (m + 1) x.1) :=
    body_related hrules (Link.compatibleOver trivial fun _ hp => hp c) hcall hx
  exact Link.sight_eq_of_parses (hbody ⟨rfl, hx.2⟩)

/-- A definition that comes to its reply still does with more room. -/
theorem settled_mono (c : Cursor σ) (hnm : n ≤ m) : rules.settled c n ⊆ rules.settled c m := by
  rintro x ⟨hx, h⟩
  have hdeeper : Link.deeper.Parsers (rules.body n x.1) (rules.body m x.1) :=
    deeper_body hrules hx hnm
  refine ⟨hx, h.imp (fun hne => ?_) fun hnever => ⟨hnever.1, fun hrun => ?_⟩⟩
  · rwa [← Parser.parse_eq_of_sight (Link.sight_eq_of_deeper hdeeper hne)]
  · exact hnever.2 ((hdeeper rfl).eq_exhausted hrun)

/-- Where one more call settles nothing new, the next one settles nothing new either. -/
theorem settled_eq_step (h : rules.settled c n = rules.settled c (n + 1)) :
    rules.settled c (n + 1) = rules.settled c (n + 2) := by
  ext x
  refine and_congr_right fun hx => ?_
  have hsight := sight_step hrules (fun x hx => sight_eq_of_settled_eq hrules h hx) hx
  have hrun := Parser.run_eq_exhausted_iff_of_sight hsight
  simp only [Parser.parse_eq_of_sight hsight, ne_eq, hrun]

/-- There are no more steps that settle something than there are definitions and places. -/
theorem settled_eq (hcounted : rules.Counted) (c : Cursor σ)
    (hn : rules.count * (c.left + 1) ≤ n) :
    rules.settled c n = rules.settled c (rules.count * (c.left + 1)) := by
  have hsub (k : Nat) : rules.settled c k ⊆ rules.places c := fun x hx => hx.1
  have hfin (k : Nat) : (rules.settled c k).Finite := (hcounted.finite_places c).subset (hsub k)
  -- the number of settled ones grows until it stays, and it stays once it has stayed
  have hcard : (rules.settled c n).ncard =
      (rules.settled c (rules.count * (c.left + 1))).ncard := by
    refine Nat.stabilises_of_monotone (f := fun k => (rules.settled c k).ncard) ?_ ?_ ?_ hn
    · exact fun j k hjk => Set.ncard_le_ncard (settled_mono hrules c hjk) (hfin k)
    · exact fun k => (Set.ncard_le_ncard (hsub k) (hcounted.finite_places c)).trans
        (hcounted.ncard_places c)
    · intro k hk
      have heq : rules.settled c k = rules.settled c (k + 1) :=
        Set.eq_of_subset_of_ncard_le (settled_mono hrules c k.le_succ) hk.ge (hfin _)
      exact congrArg Set.ncard (settled_eq_step hrules heq)
  exact (Set.eq_of_subset_of_ncard_le (settled_mono hrules c hn) hcard.le (hfin n)).symm

/-- With room for as many calls as there are definitions and places, more room changes nothing. -/
theorem sight_body_eq (hcounted : rules.Counted) (hx : x ∈ rules.places c)
    (hn : rules.count * (c.left + 1) ≤ n) (hnm : n ≤ m) :
    (rules.body m x.1).sight x.2 = (rules.body n x.1).sight x.2 := by
  induction m, hnm using Nat.le_induction with
  | base => rfl
  | succ m hnm ih =>
    rw [← ih]
    refine (sight_eq_of_settled_eq hrules ?_ hx).symm
    rw [settled_eq hrules hcounted c (hn.trans hnm),
      settled_eq hrules hcounted c ((hn.trans hnm).trans m.le_succ)]

/-- What is seen of a definition called from `c` is what is seen with any more room for calls. -/
theorem sight_definition_eq (hcounted : rules.Counted) {r : ρ α} {g : Grammar σ ρ α}
    (hg : rules.find r = .known g) (hn : rules.count * (c.left + 1) ≤ n) (hnm : n ≤ m) :
    (g.toParser fun r => rules.call m r).sight c = (g.toParser fun r => rules.call n r).sight c :=
  sight_body_eq (x := ⟨⟨α, g⟩, c⟩) hrules hcounted ⟨⟨r, hg⟩, .refl c⟩ hn hnm

/-- From `c` on calls do the same with any more room than there is from `c`. -/
theorem onward_call (hcounted : rules.Counted) (hn : rules.depthFrom c ≤ n) (hnm : n ≤ m)
    (r : ρ α) : (Link.onward c).Parsers (rules.call m r) (rules.call n r) := by
  obtain ⟨n, rfl⟩ : ∃ k, n = k + 1 := ⟨n - 1, by rw [depthFrom] at hn; omega⟩
  obtain ⟨m, rfl⟩ : ∃ k, m = k + 1 := ⟨m - 1, by omega⟩
  refine Link.parsers_call_succ fun g hg => ?_
  rintro e _ ⟨rfl, hce⟩
  have hplace : (⟨⟨α, g⟩, e⟩ : _ × Cursor σ) ∈ rules.places c := ⟨⟨r, hg⟩, hce⟩
  exact parses_body hrules hplace (sight_body_eq hrules hcounted hplace
    (Nat.le_of_succ_le_succ hn) (Nat.le_of_succ_le_succ hnm))

/-- What is seen of a parser is what is seen with any more room for calls. -/
theorem sight_toParser_call (hcounted : rules.Counted) {g : Grammar σ ρ α}
    (hg : g.Parametric Parser.Onward) (c : Cursor σ) (hn : rules.depthFrom c ≤ n) :
    (g.toParser fun r => rules.call n r).sight c = (rules.parser g).sight c := by
  have hparsers : (Link.onward c).Parsers (g.toParser fun r => rules.call n r)
      (g.toParser fun r => rules.call (rules.depthFrom c) r) :=
    hg _ (Link.compatibleOver trivial fun _ hp => hp c) _ _
      fun r => onward_call hrules hcounted (Nat.le_refl _) hn r
  exact Link.sight_eq_of_parses (hparsers ⟨rfl, .refl c⟩)

end Places

/-! ## Parsers without an end -/

variable {g : Grammar σ ρ α}

/-- What is seen of a parser over the combinators alone is what is seen with any more room. -/
theorem sight_parser_eq (hrules : rules.Plain) (hcounted : rules.Counted) (hg : g.Plain)
    (c : Cursor σ) (hn : rules.depthFrom c ≤ n) :
    (g.toParser fun r => rules.call n r).sight c = (rules.parser g).sight c :=
  sight_toParser_call hrules.parametric hcounted hg.parametric c hn

theorem deeper_toParser_call (hrules : rules.Plain) (hg : g.Plain) (hnm : n ≤ m) :
    Link.deeper.Parsers (g.toParser fun r => rules.call n r)
      (g.toParser fun r => rules.call m r) :=
  Parametric.deeper_toParser (P := fun _ => True) hrules.parametric hg.parametric hnm

/-- A grammar that runs out of room for calls runs out of less room as well. -/
theorem run_eq_exhausted_of_le (hrules : rules.Plain) (hg : g.Plain) (hnm : n ≤ m)
    (h : (g.toParser fun r => rules.call m r).run c = Run.exhausted) :
    (g.toParser fun r => rules.call n r).run c = Run.exhausted :=
  (deeper_toParser_call hrules hg hnm rfl).eq_exhausted h

theorem parse_eq_exhausted_of_le (hrules : rules.Plain) (hg : g.Plain) (hnm : n ≤ m)
    (h : (g.toParser fun r => rules.call m r).parse c = Run.exhausted) :
    (g.toParser fun r => rules.call n r).parse c = Run.exhausted := by
  have hparse : Link.deeper.Runs Link.deeper.Replies
      ((g.toParser fun r => rules.call n r).parse c)
      ((g.toParser fun r => rules.call m r).parse c) :=
    (deeper_toParser_call hrules hg hnm rfl).bind fun _ _ ho => ho.takeReply trivial
  exact hparse.eq_exhausted h

/-- The run of a parser has no end if it has none at any depth of calls. -/
theorem run_eq_exhausted_iff (hrules : rules.Plain) (hcounted : rules.Counted) (hg : g.Plain) :
    (rules.parser g).run c = Run.exhausted ↔
      ∀ depth, (g.toParser fun r => rules.call depth r).run c = Run.exhausted := by
  refine ⟨fun h depth => ?_, fun h => h _⟩
  have hdeep := sight_parser_eq hrules hcounted hg c (Nat.le_max_right depth (rules.depthFrom c))
  refine run_eq_exhausted_of_le hrules hg (Nat.le_max_left depth (rules.depthFrom c)) ?_
  exact (Parser.run_eq_exhausted_iff_of_sight hdeep).2 h

/-- Its reply has no end if it has none at any depth of calls. -/
theorem parse_eq_exhausted_iff (hrules : rules.Plain) (hcounted : rules.Counted) (hg : g.Plain) :
    (rules.parser g).parse c = Run.exhausted ↔
      ∀ depth, (g.toParser fun r => rules.call depth r).parse c = Run.exhausted := by
  refine ⟨fun h depth => ?_, fun h => h _⟩
  have hdeep := sight_parser_eq hrules hcounted hg c (Nat.le_max_right depth (rules.depthFrom c))
  refine parse_eq_exhausted_of_le hrules hg (Nat.le_max_left depth (rules.depthFrom c)) ?_
  exact (Parser.parse_eq_of_sight hdeep).trans h

end Rules

end ParserKit
