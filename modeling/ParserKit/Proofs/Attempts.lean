import ParserKit.Proofs.Contract

/-!
# Adding attempts

An attempt changes a result only if that is a failure after consumption. In a grammar without
attempts such a failure, wherever on the way it comes up, is the result of the whole: alternation
does not try its second parser after it, a sequence and a repetition end with it, and nothing else
takes it back. So putting attempts around parts of a grammar without attempts, in any number and
at any places, changes nothing on the inputs on which the grammar ends in any other way.

## Main definitions

* `Grammar.AttemptFree`, `Rules.AttemptFree`: no attempts
* `Grammar.AddsAttempts g g'`, `Rules.AddsAttempts`: the second has attempts around some parts of
  the first
* `Parser.Extends p' p`: `p'` gives the clean results of `p`

## Main results

* `Parser.extends_compatible`: adding attempts extends a parser
* `Rules.result_of_addsAttempts`: a grammar keeps its clean results when attempts are added to it
-/

namespace ParserKit

variable {σ : Type} {ρ : Type → Type} {α β : Type}

/-- A grammar without attempts. -/
abbrev Grammar.AttemptFree (g : Grammar σ ρ α) : Prop := g.Within (· ≠ .attempt)

/-- Rules without attempts. -/
abbrev Rules.AttemptFree (rules : Rules σ ρ) : Prop := rules.Within (· ≠ .attempt)

/-- The second grammar is the first one with attempts around some of its parts. -/
abbrev Grammar.AddsAttempts (g g' : Grammar σ ρ α) : Prop :=
  Grammar.Rewrapped (fun _ => False) (· = .attempt) g g'

/-- The second system of rules is the first one with attempts around some parts of its
definitions. -/
abbrev Rules.AddsAttempts (rules rules' : Rules σ ρ) : Prop :=
  Rules.Rewrapped (fun _ => False) (· = .attempt) rules rules'

namespace Parser

variable {p p' q q' : Parser σ α} {c : Cursor σ} {t : Bool} {r : Reply σ α}

/-- Every clean result of `p` is a result of `p'`. -/
def Extends (p' p : Parser σ α) : Prop := ∀ {c t r}, p.Gives c t r → Clean t r → p'.Gives c t r

theorem Extends.refl (p : Parser σ α) : p.Extends p := fun h _ => h

theorem Extends.bind {k k' : α → Parser σ β} (hp : p'.Extends p)
    (hk : ∀ a, (k' a).Extends (k a)) : (p'.bind k').Extends (p.bind k) := by
  intro c t r h hr
  rw [gives_bind_iff]
  obtain ⟨a, d, hpa, hka⟩ | ⟨a, d, u, hpa, hka, rfl⟩ | ⟨m, hpm, rfl⟩ := gives_bind_iff.1 h
  · exact .inl ⟨a, d, hp hpa (.inl rfl), hk a hka hr⟩
  · -- after consumption only a success of the whole is clean, so the second parser succeeded
    exact .inr (.inl ⟨a, d, u, hp hpa (.inr rfl), hk a hka (.inr hr.isOk), rfl⟩)
  · exact .inr (.inr ⟨m, hp hpm (.inl hr.of_error), rfl⟩)

theorem Extends.map (f : α → β) (hp : p'.Extends p) : (p'.map f).Extends (p.map f) := by
  intro c t r h hr
  obtain ⟨s, hs, rfl⟩ := gives_map_iff.1 h
  exact gives_map_iff.2 ⟨s, hp hs (clean_map_iff.1 hr), rfl⟩

theorem Extends.orElse (hp : p'.Extends p) (hq : q'.Extends q) :
    (p'.orElse q').Extends (p.orElse q) := by
  intro c t r h hr
  rw [gives_orElse_iff]
  obtain ⟨hpr, hf⟩ | ⟨m, hpm, hqr, hf⟩ | ⟨m, n, hpm, hqn, rfl, rfl⟩ := gives_orElse_iff.1 h
  · exact .inl ⟨hp hpr hr, hf⟩
  · exact .inr (.inl ⟨m, hp hpm (.inl rfl), hq hqr hr, hf⟩)
  · exact .inr (.inr ⟨m, n, hp hpm (.inl rfl), hq hqn (.inl rfl), rfl, rfl⟩)

theorem Extends.label (name : String) (hp : p'.Extends p) :
    (p'.label name).Extends (p.label name) := by
  intro c t r h hr
  rw [gives_label_iff]
  obtain ⟨hpr, hf⟩ | ⟨m, hpm, rfl, rfl⟩ := gives_label_iff.1 h
  · exact .inl ⟨hp hpr hr, hf⟩
  · exact .inr ⟨m, hp hpm (.inl rfl), rfl, rfl⟩

/-- A repetition with a clean result goes through the same rounds again: none of them is a failure
after consumption, since that would be the result. -/
theorem Extends.repeats {vs : List α} {n : Nat} {r : Reply σ (List α)} (hp : p'.Extends p)
    (h : p.Repeats c vs t r n) (hr : Clean t r) : p'.Repeats c vs t r n := by
  induction h with
  | stop h => exact .stop (hp h (.inl rfl))
  | fail h =>
    -- this failure would not be clean
    cases hr.of_error
  | next h _ ih => exact .next (hp h (.inr rfl)) (ih (.inr hr.isOk))

theorem Extends.repeatBehind (vs : List α) (hp : p'.Extends p) :
    (p'.repeatBehind vs).Extends (p.repeatBehind vs) := by
  intro c t r h hr
  obtain ⟨n, hn, hrounds⟩ := gives_repeatBehind_iff.1 h
  exact gives_repeatBehind_iff.2 ⟨n, hn, hp.repeats hrounds hr⟩

/-- A parser that takes its failures back does what it did wherever that was not a failure after
consumption. -/
theorem Extends.attempt (hp : p'.Extends p) : p'.attempt.Extends p := by
  intro c t r h hr
  exact gives_attempt_iff.2 (.inl ⟨hp h hr, hr⟩)

/-- Adding attempts to a parser without attempts extends it. -/
theorem extends_compatible :
    Compatible (· ≠ .attempt) (fun _ => False) (· = .attempt)
      fun {_} (p p' : Parser σ _) => p'.Extends p where
  retn _ := Extends.refl _
  fail := Extends.refl _
  satisfy _ := Extends.refl _
  eof := Extends.refl _
  scan _ _ := Extends.refl _
  raw _ _ p := Extends.refl p
  diverge := Extends.refl _
  bind := Extends.bind
  map f _ _ := Extends.map f
  orElse := Extends.orElse
  attempt hA := absurd rfl hA
  label name _ _ := Extends.label name
  repeatBehind vs _ _ := Extends.repeatBehind vs
  removed hw := hw.elim
  added hw := hw ▸ Extends.attempt

end Parser

/-- Let `g` be a grammar without attempts, and `g'` the same grammar with attempts around any parts
of it and of its rules. Where `g` comes to an end, and not in a failure after consumption, `g'`
comes to the same end: with the same tag, and with the same value and rest or the same message. -/
theorem Rules.result_of_addsAttempts {rules rules' : Rules σ ρ} (hrules : rules.AttemptFree)
    (hrr : rules.AddsAttempts rules') {g g' : Grammar σ ρ α} (hg : g.AttemptFree)
    (hgg : g.AddsAttempts g') (c : Cursor σ) (o : Outcome Id σ α) (r : Reply σ α)
    (hrun : (rules.parser g).run c = pure o) (hreply : o.takeReply = pure r)
    (hclean : ¬ (o.isConsumed = true ∧ r.isOk = false)) :
    ∃ o', (rules'.parser g').run c = pure o' ∧ o'.isConsumed = o.isConsumed ∧
      o'.takeReply = pure r := by
  have hdepth : rules'.depthFrom c = rules.depthFrom c := by
    simp only [Rules.depthFrom, hrr.count_eq]
  have hextends : (g'.toParser fun r => rules'.call (rules.depthFrom c) r).Extends
      (g.toParser fun r => rules.call (rules.depthFrom c) r) :=
    Parser.extends_compatible.toParser_call (fun _ => Parser.Extends.refl _) hrr hrules hgg hg _
  -- a result is clean unless it is a failure after consumption
  have hr : Parser.Clean o.isConsumed r := by
    cases ht : o.isConsumed with
    | false => exact .inl rfl
    | true =>
      cases hok : r.isOk with
      | false => exact absurd ⟨ht, hok⟩ hclean
      | true => exact .inr hok
  obtain ⟨o', hrun', ht', hreply'⟩ := hextends ⟨o, hrun, rfl, hreply⟩ hr
  refine ⟨o', ?_, ht', hreply'⟩
  simp only [Rules.parser, hdepth]
  exact hrun'

/-- The depth of nested brackets, with an attempt at each level. -/
def attemptedNesting : Grammar Char NestingRef Nat :=
  ((((Grammar.chr '(').seqRight (.ref .nesting)).seqLeft (Grammar.chr ')')).map
    (· + 1)).attempt.orElse (.retn 0)

/-- The rule of `attemptedNesting`. -/
def attemptedNestingRules : Rules Char NestingRef where
  count := 1
  find {α} r := match α, r with
    | _, .nesting => .known attemptedNesting

theorem attemptFree_nestingRules : nestingRules.AttemptFree := by
  intro α r g h
  cases r
  cases h
  exact ⟨⟨⟨trivial, trivial⟩, trivial⟩, trivial⟩

theorem addsAttempts_nesting : nesting.AddsAttempts attemptedNesting := by
  refine .orElse (.added (w := .attempt) ?_ (.refl _)) (.refl _)
  rfl

/-- Brackets that are all closed have the same depth with attempts and without. -/
theorem result_of_attemptedNesting :
    ∃ o' rest, (attemptedNestingRules.parser attemptedNesting).run
        (.start 0 #['(', '(', ')', ')', 'x']) = pure o' ∧
      o'.isConsumed = true ∧ o'.takeReply = pure (.ok 2 rest) ∧ rest.position = 4 := by
  have hrr : nestingRules.AddsAttempts attemptedNestingRules :=
    ⟨rfl, fun r => by cases r; exact .known addsAttempts_nesting⟩
  have hg : nesting.AttemptFree := attemptFree_nestingRules .nesting nesting rfl
  obtain ⟨o', hrun, ht, hreply⟩ := Rules.result_of_addsAttempts attemptFree_nestingRules hrr hg
    addsAttempts_nesting (.start 0 #['(', '(', ')', ')', 'x']) _ _ rfl rfl nofun
  exact ⟨o', _, hrun, ht, hreply, rfl⟩

end ParserKit
