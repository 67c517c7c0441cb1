import ParserKit.Proofs.Grammar.Transport

/-!
# The contract of outcomes

A success without consumption leaves the cursor where it was, and a success after consumption
stands further along in the same source. Alternation, repetition and the end of every parse rest
on this contract. No combinator checks it; all of them keep it.

The contract is about successes. What can be said about the messages of failures is said by a
`MessageLaw`: a condition on messages that leaves meet and that merging, naming and moving on
keep. The combinators are treated once, for the contract together with an arbitrary law.

Grammars run over rules. A system of rules says how many there are, and any number will do here,
so the statements cover calls that nest to any depth.

## Main definitions

* `MessageLaw σ`: a condition on the messages of failures
* `MessageLaw.Forgives`: the condition does not get stronger when an attempt takes the
  consumption back
* `MessageLaw.Keeps J p`: the results of `p` meet the contract, and its messages the law `J`

## Main results

* `MessageLaw.compatible`: every combinator keeps the contract and the law
* `Rules.parser_keeps`: so do all grammars over rules
* `Rules.parser_rest`: where the successes of a grammar stand
-/

namespace ParserKit

variable {σ : Type} {ρ : Type → Type} {α β : Type}

/-- A condition on the messages of failures: `holds t c m` is about a failure with the message `m`
of a run from `c`, where `t` tells whether it consumed input. -/
structure MessageLaw (σ : Type) where
  /-- The condition. -/
  holds : Bool → Cursor σ → Message σ → Prop
  /-- A message on the symbol under the cursor meets it. -/
  on : ∀ c, holds false c (.on c)
  /-- So does such a message with a label. -/
  expecting : ∀ c label, holds false c (.expecting c label)
  /-- Naming keeps it. -/
  relabel : ∀ {c m}, holds false c m → ∀ label, holds false c (m.relabel label)
  /-- Merging keeps it. -/
  merge : ∀ {c m n}, holds false c m → holds false c n → holds false c (m.merge n)
  /-- A failure further along is a failure after consumption. -/
  behind : ∀ {t c d m}, c.Before d → holds t d m → holds true c m

namespace MessageLaw

variable {J : MessageLaw σ} {c d : Cursor σ} {t : Bool} {r : Reply σ α}

/-- An attempt may take the consumption of a failure back. -/
def Forgives (J : MessageLaw σ) : Prop := ∀ {c m}, J.holds true c m → J.holds false c m

/-- The result of a run from `c` meets the contract, or its message the law. -/
def Allows (J : MessageLaw σ) (c : Cursor σ) (t : Bool) : Reply σ α → Prop
  | .ok _ d => match t with
    | true => c.Before d
    | false => d = c
  | .error m => J.holds t c m

/-- What is allowed further along is allowed after consumption. -/
theorem Allows.behind (hcd : c.Before d) (h : J.Allows d t r) : J.Allows c true r := by
  match r, t, h with
  | .ok _ e, true, h => exact hcd.trans h
  | .ok _ e, false, h =>
    -- the second run stays at `d`, and `d` is further along
    have hed : e = d := h
    exact hed ▸ hcd
  | .error m, _, h => exact J.behind hcd h

theorem Allows.map {f : α → β} (h : J.Allows c t r) : J.Allows c t (r.map f) := by
  cases r with
  | ok a d => exact h
  | error m => exact h

theorem Allows.source_eq {a : α} (h : J.Allows c t (.ok a d)) : d.source = c.source := by
  cases t with
  | true => exact h.1
  | false => exact congrArg Cursor.source h

/-- A success is consumed iff it stands further along. -/
theorem Allows.consumed_iff {a : α} (h : J.Allows c t (.ok a d)) :
    t = true ↔ c.position < d.position := by
  cases t with
  | true => exact ⟨fun _ => h.2, fun _ => rfl⟩
  | false =>
    obtain rfl : d = c := h
    exact ⟨nofun, fun hlt => absurd hlt (Nat.lt_irrefl _)⟩

/-- All results of the parser are allowed. -/
def Keeps (J : MessageLaw σ) (p : Parser σ α) : Prop := ∀ {c t r}, p.Gives c t r → J.Allows c t r

/-! ## The combinators keep the contract -/

variable {p q : Parser σ α}

theorem keeps_retn (a : α) : J.Keeps (.retn a) := by
  intro c t r h
  obtain ⟨rfl, rfl⟩ := Parser.gives_retn_iff.1 h
  rfl

theorem keeps_fail : J.Keeps (.fail : Parser σ α) := by
  intro c t r h
  obtain ⟨rfl, rfl⟩ := Parser.gives_fail_iff.1 h
  exact J.on c

theorem keeps_satisfy (accepts : σ → Bool) : J.Keeps (.satisfy accepts) := by
  intro c t r h
  obtain ⟨a, d, -, -, hd, rfl, rfl⟩ | ⟨-, rfl, rfl⟩ := Parser.gives_satisfy_iff.1 h
  · exact Cursor.before_of_advance hd
  · exact J.expecting c predicateLabel

theorem keeps_eof : J.Keeps .eof := by
  intro c t r h
  obtain ⟨rfl, rfl⟩ := Parser.gives_eof_iff.1 h
  split
  · rfl
  · exact J.expecting c eofLabel

theorem keeps_scan (m : Matcher σ) : J.Keeps (.scan m) := by
  intro c t r h
  obtain ⟨ys, d, -, hne, hd, rfl, rfl⟩ | ⟨-, rfl, rfl⟩ | ⟨-, rfl, rfl⟩ :=
    Parser.gives_scan_iff.1 h
  · exact Cursor.before_of_advanceBy (List.length_pos_iff.2 hne) hd
  · rfl
  · exact J.expecting c m.label

/-- A sequence tells what its parts tell, the second one from further along. -/
theorem Keeps.bind {k : α → Parser σ β} (hp : J.Keeps p) (hk : ∀ a, J.Keeps (k a)) :
    J.Keeps (p.bind k) := by
  intro c t r h
  obtain ⟨a, d, hpa, hka⟩ | ⟨a, d, u, hpa, hka, rfl⟩ | ⟨m, hpm, rfl⟩ := Parser.gives_bind_iff.1 h
  · -- nothing was read, so the second parser starts where the first one did
    have hd : d = c := hp hpa
    subst hd
    exact hk a hka
  · have hcd : c.Before d := hp hpa
    exact (hk a hka).behind hcd
  · exact hp hpm

theorem Keeps.map (f : α → β) (hp : J.Keeps p) : J.Keeps (p.map f) := by
  intro c t r h
  obtain ⟨s, hs, rfl⟩ := Parser.gives_map_iff.1 h
  exact (hp hs).map

theorem Keeps.orElse (hp : J.Keeps p) (hq : J.Keeps q) : J.Keeps (p.orElse q) := by
  intro c t r h
  obtain ⟨hpr, -⟩ | ⟨m, -, hqr, -⟩ | ⟨m, n, hpm, hqn, rfl, rfl⟩ := Parser.gives_orElse_iff.1 h
  · exact hp hpr
  · exact hq hqr
  · exact J.merge (hp hpm) (hq hqn)

/-- An attempt needs a law that lets a failure be taken back. -/
theorem Keeps.attempt (hJ : J.Forgives) (hp : J.Keeps p) : J.Keeps p.attempt := by
  intro c t r h
  obtain ⟨hpr, -⟩ | ⟨m, hpm, rfl, rfl⟩ := Parser.gives_attempt_iff.1 h
  · exact hp hpr
  · exact hJ (hp hpm)

theorem Keeps.label (name : String) (hp : J.Keeps p) : J.Keeps (p.label name) := by
  intro c t r h
  obtain ⟨hpr, -⟩ | ⟨m, hpm, rfl, rfl⟩ := Parser.gives_label_iff.1 h
  · exact hp hpr
  · exact J.relabel (hp hpm) name

/-- Each round starts at the cursor behind the round before it, so the rounds together stay
further along. -/
theorem Keeps.repeats {vs : List α} {n : Nat} {r : Reply σ (List α)} (hp : J.Keeps p)
    (h : p.Repeats c vs t r n) : J.Allows c t r := by
  induction h with
  | stop => rfl
  | fail h => exact hp h
  | @next c d _ _ _ _ _ h _ ih =>
    have hcd : c.Before d := hp h
    exact ih.behind hcd

theorem Keeps.repeatBehind (vs : List α) (hp : J.Keeps p) : J.Keeps (p.repeatBehind vs) := by
  intro c t r h
  obtain ⟨n, -, hrounds⟩ := Parser.gives_repeatBehind_iff.1 h
  exact hp.repeats hrounds

/-- The combinators keep the contract and the law, attempts if the law forgives. -/
theorem compatible {A : Form → Prop} (hraw : ¬ A .raw) (hattempt : A .attempt → J.Forgives) :
    Compatible A (fun _ => False) (fun _ => False) fun p _ => J.Keeps p where
  retn := keeps_retn
  fail := keeps_fail
  satisfy := keeps_satisfy
  eof := keeps_eof
  scan _ := keeps_scan
  raw hA := absurd hA hraw
  diverge h := absurd h Parser.not_gives_of_throw
  bind := Keeps.bind
  map f _ _ := Keeps.map f
  orElse := Keeps.orElse
  attempt hA := Keeps.attempt (hattempt hA)
  label name _ _ := Keeps.label name
  repeatBehind vs _ _ := Keeps.repeatBehind vs
  removed hw := hw.elim
  added hw := hw.elim

end MessageLaw

/-- Grammars over rules keep the contract and the law. -/
theorem Rules.parser_keeps {J : MessageLaw σ} {A : Form → Prop} (hraw : ¬ A .raw)
    (hattempt : A .attempt → J.Forgives) {rules : Rules σ ρ} (hrules : rules.Within A)
    {g : Grammar σ ρ α} (hg : g.Within A) : J.Keeps (rules.parser g) := by
  intro c t r h
  have hdepth : J.Keeps (g.toParser fun r => rules.call (rules.depthFrom c) r) :=
    (MessageLaw.compatible hraw hattempt).toParser_call
      (fun _ _ _ _ h => absurd h Parser.not_gives_of_throw)
      (.refl rules) hrules (.refl g) hg _
  exact hdepth h

/-! ## Where successes stand -/

/-- The law that every message meets. -/
def MessageLaw.any : MessageLaw σ where
  holds _ _ _ := True
  on _ := trivial
  expecting _ _ := trivial
  relabel _ _ := trivial
  merge _ _ := trivial
  behind _ _ := trivial

/-- A success without consumption stands where the run began; a success after consumption stands
further along in the same source, and not past its end. -/
theorem Rules.parser_rest (rules : Rules σ ρ) (hrules : rules.Plain) (g : Grammar σ ρ α)
    (hg : g.Plain) (c : Cursor σ) :
    (∀ a rest, (rules.parser g).run c = pure (.empty (.ok a rest)) → rest = c) ∧
    (∀ reply a rest, (rules.parser g).run c = pure (.consumed reply) →
      reply.take = pure (.ok a rest) →
      rest.source = c.source ∧ c.position < rest.position ∧ rest.position ≤ c.length) := by
  have hkeeps : MessageLaw.any.Keeps (rules.parser g) :=
    Rules.parser_keeps (not_not_intro rfl) (fun _ => id) hrules hg
  constructor
  · intro a rest hrun
    exact hkeeps (Parser.gives_empty_iff.2 hrun)
  · intro reply a rest hrun hreply
    have hbefore : c.Before rest := hkeeps (Parser.gives_consumed_iff.2 ⟨reply, hrun, hreply⟩)
    exact ⟨hbefore.1, hbefore.2, hbefore.position_le⟩

/-- The reference to the rule of `nesting`. -/
inductive NestingRef : Type → Type where
  /-- The rule. -/
  | nesting : NestingRef Nat

/-- The depth of nested brackets. -/
def nesting : Grammar Char NestingRef Nat :=
  ((((Grammar.chr '(').seqRight (.ref .nesting)).seqLeft (Grammar.chr ')')).map (· + 1)).orElse
    (.retn 0)

/-- The rule of `nesting`. -/
def nestingRules : Rules Char NestingRef where
  count := 1
  find {α} r := match α, r with
    | _, .nesting => .known nesting

theorem plain_nestingRules : nestingRules.Plain := by
  intro α r g h
  cases r
  cases h
  exact ⟨⟨⟨trivial, trivial⟩, trivial⟩, trivial⟩

/-- Brackets are read to the last one that closes, and no brackets are read where there are
none. -/
theorem rest_of_nesting :
    (∃ rest, (nestingRules.parser nesting).run (.start 0 #['x']) = pure (.empty (.ok 0 rest)) ∧
      rest = .start 0 #['x']) ∧
    (∃ reply rest, (nestingRules.parser nesting).run (.start 0 #['(', '(', ')', ')', 'x']) =
        pure (.consumed reply) ∧ reply.take = pure (.ok 2 rest) ∧
      rest.source = ⟨0, #['(', '(', ')', ')', 'x']⟩ ∧ 0 < rest.position ∧
        rest.position ≤ 5) := by
  have hg : nesting.Plain := plain_nestingRules .nesting nesting rfl
  refine ⟨⟨_, rfl, ?_⟩, ⟨_, _, rfl, rfl, ?_⟩⟩
  · exact (Rules.parser_rest _ plain_nestingRules _ hg (.start 0 #['x'])).1 _ _ rfl
  · exact (Rules.parser_rest _ plain_nestingRules _ hg
      (.start 0 #['(', '(', ')', ')', 'x'])).2 _ _ _ rfl rfl

end ParserKit
