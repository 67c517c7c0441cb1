import Mathlib.Data.List.Forall2
import ParserKit.Proofs.Merging

/-!
# Choices

A choice does what the first of its alternatives does that is not a failure without consumption. If
all alternatives fail so, the choice fails with what comes of their messages.

An alternation of two parsers may be grouped in any way, whatever the parsers do, since messages may
be merged in any groups. To leave out the parser that always fails is another matter. It fails where
the run began and expects nothing, so its message is lost beside one further along, and adds nothing
to one at the same place; beside a message about a place before the run, or with another symbol, it
would show. Messages of grammars are truthful and not before the beginning of the run, so among
grammars the parser that fails is a unit. Hence choices in choices may be flattened, and it does not
matter in which order alternatives fail.

## Main definitions

* `Outcome.behind m`: the outcome of an alternative that is tried behind a failure

## Main results

* `Parser.orElse_assoc`: alternations may be grouped in any way
* `Parser.run_choice_of_final`, `Parser.gives_choice_of_errors`: what a choice does
* `Parser.choice_flatten`: a choice among the alternatives of a choice
* `Rules.choice_laws`: choices of grammars
-/

namespace ParserKit

variable {σ : Type} {ρ : Type → Type} {α : Type}

/-! ## Behind a failure -/

namespace Outcome

variable {o : Outcome Id σ α} {l m : Message σ}

/-- The outcome of an alternative that is tried behind a failure with the message `m`. -/
def behind (m : Message σ) : Outcome Id σ α → Outcome Id σ α
  | .empty (.error n) => emptyError (m.merge n)
  | o => o

/-- A failure at the front changes only what fails without consumption. -/
theorem behind_of_final (h : o.failedEmpty = false) : o.behind m = o := by
  match o, h with
  | .consumed _, _ => rfl
  | .empty (.ok _ _), _ => rfl

/-- Two failures at the front are one with both their messages. -/
theorem behind_behind (o : Outcome Id σ α) : (o.behind m).behind l = o.behind (l.merge m) := by
  match o with
  | .consumed _ => rfl
  | .empty (.ok _ _) => rfl
  | .empty (.error n) => exact congrArg emptyError (Message.merge_assoc l m n).symm

end Outcome

namespace Parser

variable {p q : Parser σ α} {ps qs : List (Parser σ α)} {c : Cursor σ} {m : Message σ}
  {o : Outcome Id σ α}

/-- A run halts, or its outcome is final, or it is a failure without consumption. -/
theorem run_cases (p : Parser σ α) (c : Cursor σ) :
    (∃ halt, p.run c = throw halt) ∨ (∃ o, p.run c = pure o ∧ o.failedEmpty = false) ∨
      ∃ m, p.run c = pure (.empty (.error m)) := by
  match h : p.run c with
  | .error halt => exact .inl ⟨halt, rfl⟩
  | .ok (.consumed reply) => exact .inr (.inl ⟨.consumed reply, rfl, rfl⟩)
  | .ok (.empty (.ok a d)) => exact .inr (.inl ⟨.empty (.ok a d), rfl, rfl⟩)
  | .ok (.empty (.error m)) => exact .inr (.inr ⟨m, rfl⟩)

/-! ## Two alternatives -/

/-- An alternative that halts is not left for the next one. -/
theorem run_orElse_of_throw {halt : Halt} (h : p.run c = throw halt) :
    (p.orElse q).run c = throw halt := by
  simp only [orElse, h]
  rfl

/-- Behind a failure without consumption the second alternative is tried. -/
theorem run_orElse_behind (h : p.run c = pure (.empty (.error m))) (q : Parser σ α) :
    (p.orElse q).run c = Outcome.behind m <$> q.run c := by
  simp only [orElse, h, pure_bind, map_eq_pure_bind]
  refine bind_congr fun o => ?_
  match o with
  | .consumed _ => rfl
  | .empty (.ok _ _) => rfl
  | .empty (.error _) => rfl

/-- What an alternation does at a cursor is told by what its parts do there. -/
theorem run_orElse_congr {p' q' : Parser σ α} (hp : p.run c = p'.run c) (hq : q.run c = q'.run c) :
    (p.orElse q).run c = (p'.orElse q').run c := by
  simp only [orElse, hp, hq]

theorem orElse_assoc (p q r : Parser σ α) : (p.orElse q).orElse r = p.orElse (q.orElse r) := by
  refine ext_run fun c => ?_
  obtain ⟨halt, hp⟩ | ⟨o, hp, ho⟩ | ⟨l, hp⟩ := p.run_cases c
  · rw [run_orElse_of_throw hp, run_orElse_of_throw (run_orElse_of_throw hp)]
  · rw [run_orElse_of_final hp ho, run_orElse_of_final (run_orElse_of_final hp ho) ho]
  · -- the first parser failed, so on both sides the second one decides how to go on
    have hpq := run_orElse_behind hp q
    rw [run_orElse_behind hp]
    obtain ⟨halt, hq⟩ | ⟨o, hq, ho⟩ | ⟨m, hq⟩ := q.run_cases c
    · rw [hq] at hpq
      rw [run_orElse_of_throw hq, run_orElse_of_throw hpq]
      rfl
    · rw [hq, map_pure, Outcome.behind_of_final ho] at hpq
      rw [run_orElse_of_final hq ho, run_orElse_of_final hpq ho, map_pure,
        Outcome.behind_of_final ho]
    · rw [hq] at hpq
      rw [run_orElse_behind hq, run_orElse_behind hpq, Functor.map_map]
      exact congrArg (· <$> r.run c) (funext fun o => (Outcome.behind_behind o).symm)

/-! ## The first alternative that decides -/

theorem choice_cons_cons (p q : Parser σ α) (ps : List (Parser σ α)) :
    choice (p :: q :: ps) = p.orElse (choice (q :: ps)) := by
  show ps.foldl orElse (p.orElse q) = p.orElse (ps.foldl orElse q)
  induction ps generalizing q with
  | nil => rfl
  | cons r ps ih => rw [List.foldl_cons, List.foldl_cons, orElse_assoc, ih]

/-- The first alternative that is not a failure without consumption decides, and those behind it are
not run. -/
theorem run_choice_of_final (hps : ∀ q ∈ ps, ∃ m, q.Gives c false (.error m))
    (hp : p.run c = pure o) (ho : o.failedEmpty = false) (after : List (Parser σ α)) :
    (choice (ps ++ p :: after)).run c = pure o := by
  induction ps with
  | nil =>
    cases after with
    | nil => exact hp
    | cons q after =>
      rw [List.nil_append, choice_cons_cons]
      exact run_orElse_of_final hp ho
  | cons q ps ih =>
    obtain ⟨⟨m, hq⟩, hps⟩ := List.forall_mem_cons.1 hps
    obtain ⟨r, rs, hrs⟩ := List.exists_cons_of_ne_nil (List.append_ne_nil_of_right_ne_nil ps
      (List.cons_ne_nil p after))
    have hrest := ih hps
    rw [hrs] at hrest
    rw [List.cons_append, hrs, choice_cons_cons]
    exact run_orElse_of_error (gives_empty_iff.1 hq) hrest ho

/-- If all alternatives fail without consumption, so does the choice, with all their messages in
their order. -/
theorem gives_foldl_orElse {ms : List (Message σ)} (hp : p.Gives c false (.error m))
    (hps : List.Forall₂ (fun q n => q.Gives c false (.error n)) ps ms) :
    (ps.foldl orElse p).Gives c false (.error (ms.foldl Message.merge m)) := by
  induction hps generalizing p m with
  | nil => exact hp
  | cons hq _ ih => exact ih (gives_orElse_iff.2 (.inr (.inr ⟨_, _, hp, hq, rfl, rfl⟩)))

/-- If all alternatives fail without consumption, the choice fails with what comes of their
messages. -/
theorem gives_choice_of_errors {ms : List (Message σ)} (hne : ps ≠ [])
    (h : List.Forall₂ (fun p n => p.Gives c false (.error n)) ps ms) :
    ∃ m, (choice ps).Gives c false (.error m) ∧ m.MergedFrom ms := by
  cases h with
  | nil => exact absurd rfl hne
  | cons hp hps => exact ⟨_, gives_foldl_orElse hp hps, Message.mergedFrom_foldl _ _⟩

/-- Among alternatives that do not halt there is a first one that decides, or all fail without
consumption. -/
theorem exists_first_final_or_errors (h : ∀ p ∈ ps, ∃ o, p.run c = pure o) :
    (∃ before p after o, ps = before ++ p :: after ∧
        (∀ q ∈ before, ∃ m, q.Gives c false (.error m)) ∧ p.run c = pure o ∧
        o.failedEmpty = false) ∨
      ∃ ms, List.Forall₂ (fun p n => p.Gives c false (.error n)) ps ms := by
  induction ps with
  | nil => exact .inr ⟨[], .nil⟩
  | cons p ps ih =>
    obtain ⟨⟨o', hp⟩, hps⟩ := List.forall_mem_cons.1 h
    obtain ⟨halt, hp'⟩ | ⟨o, hp', ho⟩ | ⟨m, hp'⟩ := p.run_cases c
    · exact absurd (hp'.symm.trans hp) (Run.throw_ne_pure halt)
    · exact .inl ⟨[], p, ps, o, rfl, nofun, hp', ho⟩
    · have hm : p.Gives c false (.error m) := gives_empty_iff.2 hp'
      obtain ⟨before, q, after, o, rfl, hbefore, hq, ho⟩ | ⟨ms, hms⟩ := ih hps
      · exact .inl ⟨p :: before, q, after, o, rfl,
          List.forall_mem_cons.2 ⟨⟨m, hm⟩, hbefore⟩, hq, ho⟩
      · exact .inr ⟨m :: ms, .cons hm hms⟩

/-! ## Parsers with truthful messages -/

/-- To fail adds nothing to an alternative: the message is about the symbol where that began, and
expects nothing. -/
theorem fail_orElse (hp : MessageLaw.truthful.Keeps p) : (fail : Parser σ α).orElse p = p := by
  refine ext_run fun c => ?_
  rw [run_orElse_behind (p := fail) rfl]
  obtain ⟨halt, h⟩ | ⟨o, h, ho⟩ | ⟨m, h⟩ := p.run_cases c
  · rw [h]
    rfl
  · rw [h, map_pure, Outcome.behind_of_final ho]
  · obtain ⟨htrue, hle, -⟩ : MessageLaw.truthful.holds false c m := hp (gives_empty_iff.2 h)
    have hmerge : (Message.on c).merge m = m := Message.on_merge htrue hle
    rw [h, map_pure, Outcome.behind, hmerge]
    rfl

theorem orElse_fail (hp : MessageLaw.truthful.Keeps p) : p.orElse fail = p := by
  refine ext_run fun c => ?_
  obtain ⟨halt, h⟩ | ⟨o, h, ho⟩ | ⟨m, h⟩ := p.run_cases c
  · rw [run_orElse_of_throw h, h]
  · rw [run_orElse_of_final h ho, h]
  · obtain ⟨-, hle, -⟩ : MessageLaw.truthful.holds false c m := hp (gives_empty_iff.2 h)
    have hmerge : m.merge (Message.on c) = m := Message.merge_on hle
    rw [run_orElse_behind h, h, fail, map_pure, Outcome.emptyError, Outcome.behind, hmerge]
    rfl

theorem choice_cons (hp : MessageLaw.truthful.Keeps p) (ps : List (Parser σ α)) :
    choice (p :: ps) = p.orElse (choice ps) := by
  cases ps with
  | nil => exact (orElse_fail hp).symm
  | cons q ps => exact choice_cons_cons p q ps

theorem keeps_choice (hps : ∀ p ∈ ps, MessageLaw.truthful.Keeps p) :
    MessageLaw.truthful.Keeps (choice ps) := by
  induction ps with
  | nil => exact MessageLaw.keeps_fail
  | cons p ps ih =>
    have hp : MessageLaw.truthful.Keeps p := hps p List.mem_cons_self
    have hrest : MessageLaw.truthful.Keeps (choice ps) :=
      ih fun q hq => hps q (List.mem_cons_of_mem p hq)
    have hboth : MessageLaw.truthful.Keeps (p.orElse (choice ps)) :=
      MessageLaw.Keeps.orElse hp hrest
    intro c t r h
    rw [choice_cons hp] at h
    exact hboth h

theorem choice_append (hps : ∀ p ∈ ps, MessageLaw.truthful.Keeps p)
    (hqs : ∀ q ∈ qs, MessageLaw.truthful.Keeps q) :
    choice (ps ++ qs) = (choice ps).orElse (choice qs) := by
  induction ps with
  | nil => exact (fail_orElse (keeps_choice hqs)).symm
  | cons p ps ih =>
    have hp : MessageLaw.truthful.Keeps p := hps p List.mem_cons_self
    rw [List.cons_append, choice_cons hp, choice_cons hp, orElse_assoc,
      ih fun q hq => hps q (List.mem_cons_of_mem p hq)]

/-- A choice among the alternatives of a choice may be flattened; so an empty one may be left
out. -/
theorem choice_flatten {before inner after : List (Parser σ α)}
    (hbefore : ∀ p ∈ before, MessageLaw.truthful.Keeps p)
    (hinner : ∀ p ∈ inner, MessageLaw.truthful.Keeps p)
    (hafter : ∀ p ∈ after, MessageLaw.truthful.Keeps p) :
    choice (before ++ choice inner :: after) = choice (before ++ inner ++ after) := by
  have hchoice : ∀ p ∈ choice inner :: after, MessageLaw.truthful.Keeps p :=
    List.forall_mem_cons.2 ⟨keeps_choice hinner, hafter⟩
  have hrest : ∀ p ∈ inner ++ after, MessageLaw.truthful.Keeps p :=
    List.forall_mem_append.2 ⟨hinner, hafter⟩
  rw [choice_append hbefore hchoice, choice_cons (keeps_choice hinner), List.append_assoc,
    choice_append hbefore hrest, choice_append hinner hafter]

/-- Two alternatives that fail without consumption may be tried in either order. -/
theorem run_orElse_comm (hp : MessageLaw.truthful.Keeps p) (hq : MessageLaw.truthful.Keeps q)
    {m n : Message σ} (hm : p.Gives c false (.error m)) (hn : q.Gives c false (.error n)) :
    (p.orElse q).run c = (q.orElse p).run c := by
  have htrue : m.TruthfulAbout c.source := (hp hm).1
  have htrue' : n.TruthfulAbout c.source := (hq hn).1
  have hpq : (p.orElse q).Gives c false (.error (m.merge n)) :=
    gives_orElse_iff.2 (.inr (.inr ⟨m, n, hm, hn, rfl, rfl⟩))
  have hqp : (q.orElse p).Gives c false (.error (n.merge m)) :=
    gives_orElse_iff.2 (.inr (.inr ⟨n, m, hn, hm, rfl, rfl⟩))
  rw [gives_empty_iff.1 hpq, gives_empty_iff.1 hqp, Message.merge_comm htrue htrue']

/-- Alternatives that all fail without consumption may be tried in any order. -/
theorem run_choice_perm (hperm : ps.Perm qs) (hps : ∀ p ∈ ps, MessageLaw.truthful.Keeps p)
    (herrors : ∀ p ∈ ps, ∃ m, p.Gives c false (.error m)) :
    (choice ps).run c = (choice qs).run c := by
  induction hperm with
  | nil => rfl
  | cons p _ ih =>
    obtain ⟨hp, hps⟩ := List.forall_mem_cons.1 hps
    rw [choice_cons hp, choice_cons hp]
    exact run_orElse_congr rfl (ih hps (List.forall_mem_cons.1 herrors).2)
  | swap p q ps =>
    obtain ⟨hq, hps⟩ := List.forall_mem_cons.1 hps
    obtain ⟨hp, -⟩ := List.forall_mem_cons.1 hps
    obtain ⟨⟨m, hm⟩, herrors⟩ := List.forall_mem_cons.1 herrors
    obtain ⟨⟨n, hn⟩, -⟩ := List.forall_mem_cons.1 herrors
    -- the two stand side by side once they are grouped together
    rw [choice_cons hq, choice_cons hp, choice_cons hp, choice_cons hq, ← orElse_assoc,
      ← orElse_assoc]
    exact run_orElse_congr (run_orElse_comm hq hp hm hn) rfl
  | trans hpq _ ih ih' =>
    refine (ih hps herrors).trans (ih' (fun p hp => ?_) fun p hp => ?_)
    · exact hps p (hpq.mem_iff.2 hp)
    · exact herrors p (hpq.mem_iff.2 hp)

/-- That is so wherever they stand among the alternatives of a choice. -/
theorem run_choice_perm_among {before after : List (Parser σ α)} (hperm : ps.Perm qs)
    (hbefore : ∀ p ∈ before, MessageLaw.truthful.Keeps p)
    (hps : ∀ p ∈ ps, MessageLaw.truthful.Keeps p)
    (hafter : ∀ p ∈ after, MessageLaw.truthful.Keeps p)
    (herrors : ∀ p ∈ ps, ∃ m, p.Gives c false (.error m)) :
    (choice (before ++ ps ++ after)).run c = (choice (before ++ qs ++ after)).run c := by
  have hqs : ∀ q ∈ qs, MessageLaw.truthful.Keeps q := fun q hq => hps q (hperm.mem_iff.2 hq)
  rw [choice_append (List.forall_mem_append.2 ⟨hbefore, hps⟩) hafter, choice_append hbefore hps,
    choice_append (List.forall_mem_append.2 ⟨hbefore, hqs⟩) hafter, choice_append hbefore hqs]
  exact run_orElse_congr (run_orElse_congr rfl (run_choice_perm hperm hps herrors)) rfl

end Parser

/-! ## Choices of grammars -/

namespace Rules

variable {rules : Rules σ ρ} {gs hs : List (Grammar σ ρ α)}

/-- Alternatives run from the same cursor, so calls may nest equally deep in all of them. -/
theorem parser_choice (rules : Rules σ ρ) (gs : List (Grammar σ ρ α)) :
    rules.parser (.choice gs) = Parser.choice (gs.map rules.parser) := by
  cases gs with
  | nil => rfl
  | cons g gs =>
    have key (g : Grammar σ ρ α) :
        rules.parser (gs.foldl .orElse g) =
          (gs.map rules.parser).foldl Parser.orElse (rules.parser g) := by
      induction gs generalizing g with
      | nil => rfl
      | cons h gs ih => exact ih (g.orElse h)
    exact key g

theorem truthful_plain (hrules : rules.Plain) {g : Grammar σ ρ α} (hg : g.Plain) :
    MessageLaw.truthful.Keeps (rules.parser g) :=
  Rules.parser_keeps (not_not_intro rfl) (fun _ => MessageLaw.truthful_forgives) hrules hg

theorem truthful_plains (hrules : rules.Plain) (hgs : ∀ g ∈ gs, g.Plain) :
    ∀ p ∈ gs.map rules.parser, MessageLaw.truthful.Keeps p := by
  intro p hp
  obtain ⟨g, hg, rfl⟩ := List.mem_map.1 hp
  exact truthful_plain hrules (hgs g hg)

/-- A choice among the alternatives of a choice of grammars may be flattened. -/
theorem parser_choice_flatten (hrules : rules.Plain) {before inner after : List (Grammar σ ρ α)}
    (hbefore : ∀ g ∈ before, g.Plain) (hinner : ∀ g ∈ inner, g.Plain)
    (hafter : ∀ g ∈ after, g.Plain) :
    rules.parser (.choice (before ++ .choice inner :: after)) =
      rules.parser (.choice (before ++ inner ++ after)) := by
  simp only [parser_choice, List.map_append, List.map_cons]
  exact Parser.choice_flatten (truthful_plains hrules hbefore) (truthful_plains hrules hinner)
    (truthful_plains hrules hafter)

/-- Alternatives that all fail without consumption may be tried in any order, wherever they stand in
a choice of grammars. -/
theorem run_parser_choice_perm (hrules : rules.Plain) {before after : List (Grammar σ ρ α)}
    {c : Cursor σ} (hbefore : ∀ g ∈ before, g.Plain) (hgs : ∀ g ∈ gs, g.Plain)
    (hafter : ∀ g ∈ after, g.Plain) (hperm : gs.Perm hs)
    (herrors : ∀ g ∈ gs, ∃ m, (rules.parser g).Gives c false (.error m)) :
    (rules.parser (.choice (before ++ gs ++ after))).run c =
      (rules.parser (.choice (before ++ hs ++ after))).run c := by
  simp only [parser_choice, List.map_append]
  exact Parser.run_choice_perm_among (hperm.map rules.parser) (truthful_plains hrules hbefore)
    (truthful_plains hrules hgs) (truthful_plains hrules hafter) (List.forall_mem_map.2 herrors)

/-- The laws of choices.

Among alternatives that do not halt at a cursor there is a first one whose outcome is not a failure
without consumption, and its outcome is that of the choice, whatever stands behind it; or all fail
without consumption, and then so does the choice, with a message at the greatest of their positions,
with the labels of all messages there and the symbol of the first one there.

Alternations of any parsers may be grouped in any way. For grammars over rules, made of combinators,
the parser that fails is a unit, choices among the alternatives of a choice may be flattened, and
alternatives that all fail without consumption may be tried in any order. -/
theorem choice_laws (rules : Rules σ ρ) (hrules : rules.Plain) :
    (∀ (ps : List (Parser σ α)) (c : Cursor σ), ps ≠ [] → (∀ p ∈ ps, ∃ o, p.run c = pure o) →
      (∃ before p after o, ps = before ++ p :: after ∧
        (∀ q ∈ before, ∃ m, q.Gives c false (.error m)) ∧
        p.run c = pure o ∧ o.failedEmpty = false ∧
        ∀ others, (Parser.choice (before ++ p :: others)).run c = pure o) ∨
      (∃ ms m, List.Forall₂ (fun p n => p.Gives c false (.error n)) ps ms ∧
        (Parser.choice ps).Gives c false (.error m) ∧ m.MergedFrom ms)) ∧
    (∀ p q r : Parser σ α, (p.orElse q).orElse r = p.orElse (q.orElse r)) ∧
    (∀ g : Grammar σ ρ α, g.Plain → rules.parser (.orElse .fail g) = rules.parser g ∧
      rules.parser (.orElse g .fail) = rules.parser g) ∧
    (∀ before inner after : List (Grammar σ ρ α), (∀ g ∈ before, g.Plain) →
      (∀ g ∈ inner, g.Plain) → (∀ g ∈ after, g.Plain) →
      rules.parser (.choice (before ++ .choice inner :: after)) =
        rules.parser (.choice (before ++ inner ++ after))) ∧
    ∀ (before gs hs after : List (Grammar σ ρ α)) (c : Cursor σ), (∀ g ∈ before, g.Plain) →
      (∀ g ∈ gs, g.Plain) → (∀ g ∈ after, g.Plain) → gs.Perm hs →
      (∀ g ∈ gs, ∃ m, (rules.parser g).Gives c false (.error m)) →
      (rules.parser (.choice (before ++ gs ++ after))).run c =
        (rules.parser (.choice (before ++ hs ++ after))).run c := by
  refine ⟨fun ps c hne hruns => ?_, Parser.orElse_assoc, fun g hg => ?_, ?_, ?_⟩
  · obtain ⟨before, p, after, o, hps, hbefore, hp, ho⟩ | ⟨ms, hms⟩ :=
      Parser.exists_first_final_or_errors hruns
    · exact .inl ⟨before, p, after, o, hps, hbefore, hp, ho,
        Parser.run_choice_of_final hbefore hp ho⟩
    · obtain ⟨m, hm, hfrom⟩ := Parser.gives_choice_of_errors hne hms
      exact .inr ⟨ms, m, hms, hm, hfrom⟩
  · have htrue : MessageLaw.truthful.Keeps (rules.parser g) := truthful_plain hrules hg
    exact ⟨Parser.fail_orElse htrue, Parser.orElse_fail htrue⟩
  · exact fun _ _ _ hbefore hinner hafter => parser_choice_flatten hrules hbefore hinner hafter
  · exact fun _ _ _ _ _ hbefore hgs hafter hperm herrors =>
      run_parser_choice_perm hrules hbefore hgs hafter hperm herrors

end Rules

/-- An `a`, or an `x` and one of two others behind it. -/
def pairs : List (Grammar Char NestingRef Char) :=
  [.chr 'a', ((Grammar.chr 'x').seqRight (.chr 'b')).attempt,
    ((Grammar.chr 'x').seqRight (.chr 'c')).attempt]

theorem plain_pairs : ∀ g ∈ pairs, g.Plain := by
  simp [pairs, Grammar.Within]

theorem errors_of_pairs :
    ∀ g ∈ pairs, ∃ m, (nestingRules.parser g).Gives (.start 0 #['x', 'z']) false (.error m) := by
  simp only [pairs, List.forall_mem_cons]
  exact ⟨⟨_, _, rfl, rfl, rfl⟩, ⟨_, _, rfl, rfl, rfl⟩, ⟨_, _, rfl, rfl, rfl⟩, nofun⟩

/-- Behind an `x` that is neither pair, the choice tells of the two that got further. It does not
matter in which order the alternatives are, or whether an empty choice is among them. -/
theorem choice_laws_of_pairs :
    (∃ ms m, (Parser.choice (pairs.map nestingRules.parser)).Gives (.start 0 #['x', 'z']) false
        (.error m) ∧ m.MergedFrom ms ∧ ms.length = 3 ∧ m.position = 1) ∧
    nestingRules.parser (.choice ([.chr 'a'] ++ .choice [] :: pairs)) =
      nestingRules.parser (.choice (.chr 'a' :: pairs)) ∧
    (nestingRules.parser (.choice pairs)).run (.start 0 #['x', 'z']) =
      (nestingRules.parser (.choice pairs.reverse)).run (.start 0 #['x', 'z']) := by
  obtain ⟨hdecides, -, -, hflatten, hperm⟩ :=
    nestingRules.choice_laws (α := Char) plain_nestingRules
  refine ⟨?_, ?_, ?_⟩
  · have herrors : ∀ p ∈ pairs.map nestingRules.parser,
        ∃ m, p.Gives (.start 0 #['x', 'z']) false (.error m) :=
      List.forall_mem_map.2 errors_of_pairs
    have hruns : ∀ p ∈ pairs.map nestingRules.parser,
        ∃ o, p.run (.start 0 #['x', 'z']) = pure o := by
      intro p hp
      obtain ⟨m, hm⟩ := herrors p hp
      exact ⟨_, Parser.gives_empty_iff.1 hm⟩
    obtain ⟨before, p, after, o, hps, -, hp, ho, -⟩ | ⟨ms, m, hms, hm, hfrom⟩ :=
      hdecides (pairs.map nestingRules.parser) (.start 0 #['x', 'z']) nofun hruns
    · -- none of the pairs is there, so no alternative decides
      obtain ⟨m, hm⟩ := herrors p (by simp [hps])
      obtain rfl := Run.pure_eq_pure.1 (hp.symm.trans (Parser.gives_empty_iff.1 hm))
      cases ho
    · have hlen : 3 = ms.length := hms.length_eq
      obtain ⟨-, h⟩ := hm.unique ⟨_, rfl, rfl, rfl⟩
      refine ⟨ms, m, hm, hfrom, hlen.symm, ?_⟩
      cases h
      rfl
  · exact hflatten [.chr 'a'] [] pairs (by simp) nofun plain_pairs
  · exact hperm [] pairs pairs.reverse [] (.start 0 #['x', 'z']) nofun plain_pairs nofun
      (List.reverse_perm pairs).symm errors_of_pairs

end ParserKit
