import ParserKit.Proofs.Grammar.Parametric
import ParserKit.Proofs.Laws
import ParserKit.Proofs.Safety

/-!
# Runs from a place on

Whatever a parser does to a cursor, as long as its successes do not go back a run stays from its
place on, where only finitely many cursors are. Two ways to compare runs there are treated here,
both for the same run with different rules.

The first is to see the same everywhere. It is a `Link`, for runs that correspond by it are runs of
which the same is seen, and whose successes stand from the place on.

The second asks for less. One parser *backs* another one if it does the same wherever the other
one comes to its reply. Where that has no end nothing is asked, not even the tag. No link says
this, for a link relates tags before it looks at replies; but a combinator comes to its reply only
if each part that it runs comes to its own, so it is kept by all of them.

## Main definitions

* `Link.onward d`: the same run, from `d` on
* `Link.Backed d p q`: from `d` on, where `q` comes to its reply `p` does the same
* `Parser.Onward p`: the successes of `p` stand where its run began, or further along

## Main results

* `Link.sight_eq_of_parses`, `Link.parses_of_sight`: to correspond is to be seen to do the same
* `Link.Backed.compatible`: the combinators keep it that one parser backs another
-/

namespace ParserKit

variable {σ : Type} {α β : Type}

namespace Parser

variable {p q : Parser σ α} {c : Cursor σ}

/-- Runs of which the same is seen halt alike. -/
theorem run_eq_throw_iff_of_sight (h : p.sight c = q.sight c) (halt : Halt) :
    p.run c = throw halt ↔ q.run c = throw halt := by
  have hsight (p : Parser σ α) : p.run c = throw halt ↔ p.sight c = throw halt := by
    rw [sight]
    cases p.run c with
    | ok o => exact iff_of_false (fun h => by cases h) fun h => by cases h
    | error halt' =>
      refine ⟨fun h => congrArg (Outcome.sight <$> ·) h, fun h => ?_⟩
      exact congrArg Except.error (Except.error.inj h)
  rw [hsight, hsight, h]

theorem run_eq_exhausted_iff_of_sight (h : p.sight c = q.sight c) :
    p.run c = Run.exhausted ↔ q.run c = Run.exhausted :=
  run_eq_throw_iff_of_sight h .exhausted

theorem run_eq_fault_iff_of_sight (h : p.sight c = q.sight c) (f : Fault) :
    p.run c = Run.fault f ↔ q.run c = Run.fault f :=
  run_eq_throw_iff_of_sight h (.fault f)

theorem parse_eq_of_sight (h : p.sight c = q.sight c) : p.parse c = q.parse c := by
  have hsight (p : Parser σ α) : p.parse c = p.sight c >>= fun s => ExceptT.mk s.reply := by
    simp only [parse, sight, bind_map_left]
    refine bind_congr fun o => ?_
    rw [Outcome.sight_eq]
    rfl
  rw [hsight, hsight, h]

end Parser

/-! ## Runs from a place on -/

namespace Link

/-- The same run, from `d` on. -/
def onward (d : Cursor σ) : Link σ where
  cursors c c' := c = c' ∧ d.Reaches c
  messages := (· = ·)
  faults := (· = ·)
  deep := True
  early := False
  peek_eq h := congrArg Cursor.peek h.1
  on h := congrArg Message.on h.1
  withExpected h label := Message.withExpected_congr h label
  relabel h label := Message.relabel_congr h label
  merge h h' := Message.merge_congr h h'
  unassigned h := congrArg (fun c => Fault.unassigned c.position) h.1
  dropped h := congrArg (fun c => Fault.dropped c.position) h.1
  remaining_eq _ _ _ h := congrArg Cursor.remaining h.1
  advanceBy := by
    rintro - c _ e e' ⟨rfl, hdc⟩ count he he'
    exact ⟨Except.ok.inj (he.symm.trans he'), hdc.trans (Cursor.reaches_of_advanceBy he)⟩

variable {d e : Cursor σ} {p p' q q' : Parser σ α} {x y : Exec (Outcome Id σ α)}

/-- Outcomes that correspond from `d` on have the same tag and the same reply. -/
theorem outcomes_sight_eq {o o' : Outcome Id σ α} (h : (onward d).Outcomes o o') :
    o.sight = o'.sight := by
  cases h with
  | empty hr =>
    cases hr with
    | ok a hc =>
      obtain ⟨rfl, -⟩ := hc
      rfl
    | error hm =>
      obtain rfl := hm
      rfl
  | @consumed x y h =>
    have htake : id <$> x.take = id <$> y.take := by
      refine (h trivial).map_eq id False.elim fun r s hrs => ?_
      cases hrs with
      | ok a hc => exact congrArg (Reply.ok a) hc.1
      | error hm => exact congrArg Reply.error hm
    rw [id_map, id_map] at htake
    simp only [Outcome.sight_eq, Outcome.takeReply, htake]
    rfl

/-- The same is seen of runs that correspond from `d` on. -/
theorem sight_eq_of_parses (h : (onward d).Parses x y) :
    Outcome.sight <$> x = Outcome.sight <$> y :=
  h.map_eq id False.elim fun _ _ => outcomes_sight_eq

/-- A run that stays from `d` on corresponds to each run of which the same is seen. -/
theorem parses_of_sight (hx : (onward d).Parses x x)
    (h : Outcome.sight <$> x = Outcome.sight <$> y) : (onward d).Parses x y := by
  match x, y, h, hx with
  | .error halt, .error halt', h, hx =>
    obtain rfl : halt = halt' := Except.error.inj h
    exact hx
  | .ok o, .ok o', h, hx =>
    obtain ⟨o'', ho'', ho⟩ := Runs.exists_of_pure (a := o) hx
    obtain rfl := Run.pure_eq_pure.1 ho''
    have hsight : o.sight = o'.sight := Except.ok.inj h
    rw [Outcome.sight_eq, Outcome.sight_eq, Sighting.mk.injEq] at hsight
    obtain ⟨htag, -, hreply⟩ := hsight
    refine .done ?_
    match o, o', htag, hreply, ho with
    | .empty r, .empty s, _, hreply, ho =>
      obtain rfl : r = s := Except.ok.inj hreply
      exact ho
    | .consumed x, .consumed y, _, hreply, .consumed hx =>
      have hxy : x.take = y.take := hreply
      exact .consumed fun hdeep => hxy ▸ hx hdeep

end Link

/-- The successes of the parser stand where its run began, or further along. -/
def Parser.Onward (p : Parser σ α) : Prop := ∀ d, (Link.onward d).Parsers p p

/-! ## Replies at hand -/

/-- Where the second of two sequences is known to come to an end, what follows need only correspond
where it comes to an end. -/
theorem Link.Runs.bind_of_ne {L : Link σ} {γ δ ε : Type} {Q : α → β → Prop} {Q' : γ → δ → Prop}
    {x : Exec α} {y : Exec β} {f : α → Exec γ} {g : β → Exec δ} {u : β → Exec ε}
    (h : L.Runs Q x y) (hne : y >>= u ≠ Run.exhausted)
    (hfg : ∀ a b, Q a b → u b ≠ Run.exhausted → L.Runs Q' (f a) (g b)) :
    L.Runs Q' (x >>= f) (y >>= g) := by
  cases h with
  | done hab => exact hfg _ _ hab hne
  | fault hf => exact .fault hf
  | exhausted => exact .exhausted
  | early he y => exact .early he _

/-- From `d` on, where the second parser comes to a reply the first one does the same. -/
def Link.Backed (d : Cursor σ) (p q : Parser σ α) : Prop :=
  ∀ {e}, d.Reaches e → q.parse e ≠ Run.exhausted → (onward d).Parses (p.run e) (q.run e)

namespace Link.Backed

variable {d : Cursor σ} {p p' q q' : Parser σ α}

theorem of_parsers (h : (onward d).Parsers p q) : Backed d p q := fun hde _ => h ⟨rfl, hde⟩

/-- What goes on behind a run comes to an end only if the run comes to its reply, where it needs
that reply. -/
theorem ne_of_bind {f : Outcome Id σ α → Exec β} {x : Exec (Outcome Id σ α)}
    (h : x >>= f ≠ Run.exhausted)
    (hf : ∀ reply, reply.take = Run.exhausted → f (.consumed reply) = Run.exhausted) :
    x >>= Outcome.takeReply ≠ Run.exhausted := by
  intro hex
  refine h ?_
  match x, hex with
  | .ok (.consumed reply), hex => exact hf reply hex
  | .ok (.empty r), hex => cases hex
  | .error halt, hex => exact congrArg Except.error (Except.error.inj hex)

/-- A loop has to take the reply it is at. -/
theorem repeatLoop_eq_exhausted {bound : Nat} {reply : Deferred Id (Reply σ α)} {before : List α}
    (h : reply.take = Run.exhausted) : p.repeatLoop bound reply before = Run.exhausted := by
  cases bound with
  | zero => rfl
  | succ bound =>
    rw [Parser.repeatLoop, h]
    rfl

/-- The second bind comes to its reply, so its first parser does, and what follows does where it is
run. -/
theorem bind {k k' : α → Parser σ β} (hp : Backed d p p') (hk : ∀ a, Backed d (k a) (k' a)) :
    Backed d (p.bind k) (p'.bind k') := by
  intro e hde h
  have hne : p'.parse e ≠ Run.exhausted := by
    intro hex
    rw [Parser.parse_bind, hex] at h
    exact h rfl
  rw [Parser.parse, Parser.bind, bind_assoc] at h
  refine (hp hde hne).bind_of_ne h fun o o' ho ho' => ?_
  cases ho with
  | empty hr =>
    cases hr with
    | ok a hc =>
      obtain ⟨rfl, hdc⟩ := hc
      exact hk a hdc ho'
    | error hm => exact .done (.empty (.error hm))
  | consumed hr =>
    refine .done (.consumed fun hdeep => ?_)
    refine (hr hdeep).bind_of_ne ho' fun r s hrs hs => ?_
    cases hrs with
    | ok a hc =>
      obtain ⟨rfl, hdc⟩ := hc
      exact (hk a hdc hs).bind fun _ _ ho => ho.takeReply hdeep
    | error hm => exact .done (.error hm)

theorem map (f : α → β) (hp : Backed d p p') : Backed d (p.map f) (p'.map f) := by
  intro e hde h
  have hne : p'.parse e ≠ Run.exhausted := by
    intro hex
    rw [Parser.parse_map, hex] at h
    exact h rfl
  exact (hp hde hne).bind fun _ _ ho => .done (ho.map f)

/-- The other alternative is run only behind a failure, and only there has it to come to its
reply. -/
theorem orElse (hp : Backed d p p') (hq : Backed d q q') :
    Backed d (p.orElse q) (p'.orElse q') := by
  intro e hde h
  rw [Parser.parse, Parser.orElse, bind_assoc] at h
  have hne : p'.parse e ≠ Run.exhausted := ne_of_bind h fun _ hreply => hreply
  refine (hp hde hne).bind_of_ne h fun o o' ho ho' => ?_
  cases ho with
  | consumed hr => exact .done (.consumed hr)
  | empty hr =>
    cases hr with
    | ok a hc => exact .done (.empty (.ok a hc))
    | error hm =>
      -- only now is the other alternative run, and only now has it to come to its reply
      simp only [bind_assoc] at ho'
      have hne : q'.parse e ≠ Run.exhausted := ne_of_bind ho' fun _ hreply => hreply
      refine (hq hde hne).bind fun o o' ho => ?_
      cases ho with
      | consumed hr => exact .done (.consumed hr)
      | empty hr =>
        cases hr with
        | ok a hc => exact .done (.empty (.ok a hc))
        | error hn => exact .done (.empty (.error ((onward d).merge hm hn)))

theorem attempt (hp : Backed d p p') : Backed d p.attempt p'.attempt := by
  intro e hde h
  rw [Parser.parse_attempt] at h
  refine (hp hde h).bind fun o o' ho => ?_
  cases ho with
  | empty hr => exact .done (.empty hr)
  | consumed hr =>
    refine (hr trivial).bind fun r s hrs => ?_
    cases hrs with
    | ok a hc => exact .done (.consumed fun _ => .done (.ok a hc))
    | error hm => exact .done (.empty (.error hm))

theorem label (name : String) (hp : Backed d p p') :
    Backed d (p.label name) (p'.label name) := by
  intro e hde h
  rw [Parser.parse, Parser.label, bind_assoc] at h
  have hne : p'.parse e ≠ Run.exhausted := ne_of_bind h fun _ hreply => hreply
  refine (hp hde hne).bind fun o o' ho => ?_
  cases ho with
  | consumed hr => exact .done (.consumed hr)
  | empty hr =>
    cases hr with
    | ok a hc => exact .done (.empty (.ok a hc))
    | error hm => exact .done (.empty (.error ((onward d).relabel hm name)))

theorem repeatLoop (hp : Backed d p p') (bound : Nat) {x y : Deferred Id (Reply σ α)}
    (hxy : (onward d).Runs (onward d).Replies x.take y.take) (before : List α)
    (h : p'.repeatLoop bound y before ≠ Run.exhausted) :
    (onward d).Runs (onward d).Replies (p.repeatLoop bound x before)
      (p'.repeatLoop bound y before) := by
  induction bound generalizing x y before with
  | zero => exact .exhausted
  | succ bound ih =>
    refine hxy.bind_of_ne h fun r s hrs hs => ?_
    cases hrs with
    | error hm => exact .done (.error hm)
    | @ok a c _ hc =>
      obtain ⟨rfl, hdc⟩ := hc
      have hne : p'.parse c ≠ Run.exhausted := ne_of_bind hs fun _ => repeatLoop_eq_exhausted
      refine (hp hdc hne).bind_of_ne hs fun o o' ho ho' => ?_
      cases ho with
      | consumed hnext => exact ih (hnext trivial) (a :: before) ho'
      | empty _ => exact .done (.ok _ ⟨rfl, hdc⟩)

theorem repeatBehind (vs : List α) (hp : Backed d p p') :
    Backed d (p.repeatBehind vs) (p'.repeatBehind vs) := by
  intro e hde h
  simp only [Parser.parse, Parser.repeatBehind, Parser.repeatFrom, bind_assoc] at h
  have hne : p'.parse e ≠ Run.exhausted := ne_of_bind h fun _ => repeatLoop_eq_exhausted
  refine (hp hde hne).bind_of_ne h fun o o' ho ho' => ?_
  cases ho with
  | empty _ => exact .done (.empty (.ok vs ⟨rfl, hde⟩))
  | consumed hr => exact .done (.consumed fun hdeep => hp.repeatLoop _ (hr hdeep) _ ho')

theorem compatible (d : Cursor σ) :
    Compatible (· ≠ .raw) (fun _ => False) (fun _ => False)
      fun {_} (p q : Parser σ _) => Backed d p q where
  retn a := of_parsers (parsers_retn a)
  fail := of_parsers parsers_fail
  satisfy accepts := of_parsers (parsers_satisfy accepts)
  eof := of_parsers parsers_eof
  scan _ m := of_parsers (parsers_scan trivial m)
  raw hA := absurd rfl hA
  diverge := of_parsers parsers_diverge
  bind := bind
  map f _ _ := map f
  orElse := orElse
  attempt _ _ _ _ := attempt
  label name _ _ := label name
  repeatBehind vs _ _ := repeatBehind vs
  removed hw := hw.elim
  added hw := hw.elim

end Link.Backed

end ParserKit
