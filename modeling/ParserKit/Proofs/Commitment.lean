import ParserKit.Proofs.Truthfulness

/-!
# The place of a failure tells its tag

A failure without consumption is reported where the run began, and a failure after consumption
behind that place. So whoever knows where a run began can read off the message whether the run was
committed, and need not look at the tag.

This is a property of grammars without attempts. An attempt takes the consumption of a failure back
and keeps its position, so behind an attempt an empty failure may lie anywhere further along. Where
there are none, the two kinds of failures never mix: alternatives are merged only if both failed
where they began, and then their messages are about the same place.

## Main definitions

* `Grammar.Committed`, `Rules.Committed`: no attempts, and no parsers made by other means
* `MessageLaw.telling`: a message is at the beginning of the run, or behind it after consumption

## Main results

* `Message.position_merge`: messages about one place are merged into a message about that place
* `Rules.parser_failure_iff`: a grammar without attempts consumed input exactly if its message is
  about a place behind the beginning of the run
-/

namespace ParserKit

variable {σ : Type} {ρ : Type → Type} {α : Type}

/-- A grammar over the combinators without attempts; it may search. -/
abbrev Grammar.Committed (g : Grammar σ ρ α) : Prop := g.Within (· = .scan)

/-- Rules over the combinators without attempts; they may search. -/
abbrev Rules.Committed (rules : Rules σ ρ) : Prop := rules.Within (· = .scan)

/-- Messages about one place are merged into a message about that place. -/
theorem Message.position_merge {m n : Message σ} (h : n.position = m.position) :
    (m.merge n).position = m.position := by
  rcases merge_cases m n with ⟨hp, -⟩ | ⟨-, hlt⟩
  · exact hp
  · -- the second message is not further along, so it does not replace the first one
    omega

/-- Messages without consumption are about the place where the run began, and those after
consumption about a place behind it. -/
def MessageLaw.telling : MessageLaw σ where
  holds t c m := match t with
    | true => c.position < m.position
    | false => m.position = c.position
  on _ := rfl
  expecting _ _ := rfl
  relabel h _ := h
  merge {c m n} hm hn := by
    have hplace : n.position = m.position := hn.trans hm.symm
    exact (Message.position_merge hplace).trans hm
  behind {t c d m} hcd h := by
    -- wherever the message is from `d` on, it is behind `c`
    have hlt : c.position < d.position := hcd.2
    cases t with
    | true => exact Nat.lt_trans hlt h
    | false => exact Nat.lt_of_lt_of_eq hlt h.symm

/-- The message tells the tag. -/
theorem MessageLaw.telling_iff {c : Cursor σ} {m : Message σ} {t : Bool}
    (h : telling.holds t c m) :
    (t = false ↔ m.position = c.position) ∧ (t = true ↔ c.position < m.position) := by
  cases t with
  | true =>
    have hlt : c.position < m.position := h
    exact ⟨iff_of_false nofun (Nat.ne_of_gt hlt), iff_of_true rfl hlt⟩
  | false =>
    have heq : m.position = c.position := h
    exact ⟨iff_of_true rfl heq, iff_of_false Bool.false_ne_true (by omega)⟩

/-- Let a grammar and its rules be made of combinators, without attempts. Whenever a run of it
fails, the failure is without consumption exactly if its message is about the place where the run
began, and after consumption exactly if its message is about a place behind it. -/
theorem Rules.parser_failure_iff (rules : Rules σ ρ) (hrules : rules.Committed) (g : Grammar σ ρ α)
    (hg : g.Committed) (c : Cursor σ) (o : Outcome Id σ α) (m : Message σ)
    (hrun : (rules.parser g).run c = pure o) (hreply : o.takeReply = pure (.error m)) :
    (o.isConsumed = false ↔ m.position = c.position) ∧
      (o.isConsumed = true ↔ c.position < m.position) := by
  -- the law does not forgive: it is kept because there is no attempt that would take it back
  have hkeeps : MessageLaw.telling.Keeps (rules.parser g) :=
    Rules.parser_keeps (A := (· = .scan)) nofun nofun hrules hg
  have hm : MessageLaw.telling.holds o.isConsumed c m := hkeeps ⟨o, hrun, rfl, hreply⟩
  exact MessageLaw.telling_iff hm

theorem committed_nestingRules : nestingRules.Committed := by
  intro α r g h
  cases r
  cases h
  exact ⟨⟨⟨trivial, trivial⟩, trivial⟩, trivial⟩

/-- A bracket that is not closed is a failure after consumption, and a symbol behind no brackets at
all is one without; the messages say so by their places. -/
theorem failure_of_nesting :
    (∃ o m, (nestingRules.parser nesting).run (.start 0 #['(', '(', 'x']) = pure o ∧
      o.takeReply = pure (.error m) ∧ m.position = 2 ∧ o.isConsumed = true) ∧
    (∃ o m, (nestingRules.parser (nesting.seqLeft .eof)).run (.start 0 #['x']) = pure o ∧
      o.takeReply = pure (.error m) ∧ m.position = 0 ∧ o.isConsumed = false) := by
  have hg : nesting.Committed := committed_nestingRules .nesting nesting rfl
  constructor
  · have htells := Rules.parser_failure_iff _ committed_nestingRules nesting hg
      (.start 0 #['(', '(', 'x']) _ _ rfl rfl
    exact ⟨_, _, rfl, rfl, rfl, htells.2.2 Nat.two_pos⟩
  · have htells := Rules.parser_failure_iff _ committed_nestingRules (nesting.seqLeft .eof)
      ⟨hg, trivial⟩ (.start 0 #['x']) _ _ rfl rfl
    exact ⟨_, _, rfl, rfl, rfl, htells.1.2 rfl⟩

/-- Behind an attempt a failure without consumption may lie further along. -/
example : ∃ m, (nestingRules.parser nesting.attempt).run (.start 0 #['(', 'x']) =
    pure (.empty (.error m)) ∧ m.position = 1 :=
  ⟨_, rfl, rfl⟩

end ParserKit
