import ParserKit.Proofs.Contract
import ParserKit.Proofs.Laws
import ParserKit.Proofs.Parser.Lockstep

/-!
# Names decide nothing

A label names what a failure expects. Labels are looked at by readers of messages only: no parser
asks for the expected set of a message, and when two messages are merged it is their positions that
are compared. So grammars that differ in labels, put in, left out or changed at any places, also in
continuations and in the definitions of rules, have the same runs but for the expected sets.

## Main definitions

* `Grammar.Relabelled`, `Rules.Relabelled`: a difference in labels only
* `Message.unlabelled`, `Reply.unlabelled`, `Sighting.unlabelled`: what is seen but for expected
  sets
* `Link.unlabelled`: two runs, compared up to expected sets

## Main results

* `Message.unlabelled_merge`: the expected sets have no part in which message is kept
* `Link.unlabelled_compatible`: every combinator keeps the correspondence, and so does a label in
  one of the runs
* `Rules.sight_of_relabelled`: grammars that differ in labels are seen alike
-/

namespace ParserKit

variable {σ : Type} {ρ : Type → Type} {α β γ : Type}

/-! ## Grammars that differ in labels -/

/-- The wrapper is a label. -/
def Wrapper.IsLabel : Wrapper → Prop
  | .attempt => False
  | .label _ => True

/-- The grammars differ in labels only. A label with another name is one that is left out and one
that is put in. -/
abbrev Grammar.Relabelled (g g' : Grammar σ ρ α) : Prop :=
  Grammar.Rewrapped Wrapper.IsLabel Wrapper.IsLabel g g'

/-- The definitions of the rules differ in labels only. -/
abbrev Rules.Relabelled (rules rules' : Rules σ ρ) : Prop :=
  Rules.Rewrapped Wrapper.IsLabel Wrapper.IsLabel rules rules'

theorem Grammar.Relabelled.rename {g g' : Grammar σ ρ α} (h : g.Relabelled g')
    (name name' : String) : (g.label name).Relabelled (g'.label name') :=
  .removed (w := .label name) trivial (.added (w := .label name') trivial h)

/-! ## What is seen without expected sets -/

/-- The message without its expected set: the place of the failure, and the symbol there. -/
def Message.unlabelled (m : Message σ) : Message σ := .bare m.position m.unexpected

/-- The reply; a failure without its expected set. -/
def Reply.unlabelled : Reply σ α → Reply σ α
  | .ok value rest => .ok value rest
  | .error message => .error message.unlabelled

/-- What is seen of an outcome, without expected sets. -/
def Sighting.unlabelled (s : Sighting σ α) : Sighting σ α :=
  { s with reply := s.reply.map Reply.unlabelled }

/-- Which of two messages is kept depends on their positions. -/
theorem Message.unlabelled_merge (m n : Message σ) :
    (m.merge n).unlabelled =
      if m.position < n.position then n.unlabelled else m.unlabelled := by
  unfold merge
  split
  · next h => rw [if_pos (Nat.compare_eq_lt.1 h)]
  · next h => rw [if_neg (Nat.lt_asymm (Nat.compare_eq_gt.1 h))]
  · next h =>
    rw [if_neg (Nat.compare_eq_eq.1 h ▸ Nat.lt_irrefl _)]
    rfl

theorem Message.position_eq_of_unlabelled {m n : Message σ}
    (h : m.unlabelled = n.unlabelled) : m.position = n.position := by
  have hposition := congrArg Message.position h
  exact hposition

/-! ## Runs -/

namespace Link

/-- The same run, but for the expected sets of messages. -/
def unlabelled : Link σ :=
  { deeper with
    messages := fun m n => m.unlabelled = n.unlabelled
    early := False
    on := fun h => congrArg (fun c => (Message.on c).unlabelled) h
    withExpected := fun h _ => h
    relabel := fun h _ => h
    merge := fun {m n m' n'} h h' => by
      rw [Message.unlabelled_merge, Message.unlabelled_merge, h, h',
        Message.position_eq_of_unlabelled h, Message.position_eq_of_unlabelled h'] }

/-- Whatever a parser does, it does the same once more. -/
theorem unlabelled_refl (p : Parser σ α) : unlabelled.Parsers p p := by
  have hreplies {β : Type} (r : Reply σ β) : unlabelled.Replies r r := by
    cases r with
    | ok a rest => exact .ok a rfl
    | error m => exact .error rfl
  rintro c d rfl
  refine .refl (fun _ => rfl) (fun o => ?_) _
  cases o with
  | consumed reply => exact .consumed fun _ => .refl (fun _ => rfl) hreplies _
  | empty r => exact .empty (hreplies r)

/-- A label in the first run changes expected sets only. -/
theorem unlabelled_label {p p' : Parser σ α} (h : unlabelled.Parsers p p') (name : String) :
    unlabelled.Parsers (p.label name) p' := by
  intro c d hcd
  rw [← bind_pure (p'.run d)]
  refine (h hcd).bind fun o o' ho => ?_
  cases ho with
  | consumed hr => exact .done (.consumed hr)
  | empty hr =>
    cases hr with
    | ok a hrest => exact .done (.empty (.ok a hrest))
    | error hm => exact .done (.empty (.error hm))

theorem Runs.unlabelled_symm {Q : α → β → Prop} {Q' : β → α → Prop} {x : Exec α} {y : Exec β}
    (h : (unlabelled : Link σ).Runs Q x y) (hQ : ∀ a b, Q a b → Q' b a) :
    (unlabelled : Link σ).Runs Q' y x := by
  cases h with
  | done hab => exact .done (hQ _ _ hab)
  | fault hf => exact .fault hf.symm
  | exhausted => exact .exhausted
  | early he => exact he.elim

theorem unlabelled_symm {p p' : Parser σ α} (h : unlabelled.Parsers p p') :
    unlabelled.Parsers p' p := by
  have hreplies {β : Type} (r s : Reply σ β) (h : unlabelled.Replies r s) :
      unlabelled.Replies s r := by
    cases h with
    | ok a hrest => exact .ok a hrest.symm
    | error hm => exact .error hm.symm
  intro c d hcd
  refine (h hcd.symm).unlabelled_symm fun o o' ho => ?_
  cases ho with
  | consumed hr => exact .consumed fun hdeep => (hr hdeep).unlabelled_symm hreplies
  | empty hr => exact .empty (hreplies _ _ hr)

/-- Every combinator keeps the correspondence, and labels may stand in either run alone. -/
theorem unlabelled_compatible :
    Compatible (fun _ => True) Wrapper.IsLabel Wrapper.IsLabel
      fun {_} (p p' : Parser σ _) => unlabelled.Parsers p p' := by
  refine compatible_wrapped (fun _ => trivial) (fun _ => trivial) (fun _ _ => unlabelled_refl)
    ?_ ?_
  · intro w hw α p p' h
    cases w with
    | attempt => exact hw.elim
    | label name => exact unlabelled_label h name
  · intro w hw α p p' h
    cases w with
    | attempt => exact hw.elim
    | label name => exact unlabelled_symm (unlabelled_label (unlabelled_symm h) name)

/-! ## What is seen of two runs -/

theorem Outcomes.unlabelled_sight_eq {o o' : Outcome Id σ α} (h : unlabelled.Outcomes o o') :
    o.sight.unlabelled = o'.sight.unlabelled := by
  have hreply : Reply.unlabelled <$> o.takeReply = Reply.unlabelled <$> o'.takeReply := by
    refine (h.takeReply trivial).map_eq id False.elim fun r s hrs => ?_
    cases hrs with
    | ok a hrest => exact congrArg (Reply.ok a) hrest
    | error hm => exact congrArg Reply.error hm
  have htag : o.isConsumed = o'.isConsumed ∧ o.failedEmpty = o'.failedEmpty := by
    cases h with
    | consumed => exact ⟨rfl, rfl⟩
    | empty hr => cases hr <;> exact ⟨rfl, rfl⟩
  rw [Outcome.sight_eq, Outcome.sight_eq, Sighting.unlabelled, Sighting.unlabelled, htag.1, htag.2]
  have hrun := congrArg ExceptT.run hreply
  rw [ExceptT.run_map, ExceptT.run_map] at hrun
  exact congrArg (Sighting.mk _ _) hrun

end Link

/-- Let two grammars and their rules differ in labels only, anywhere. Then the same is seen of their
runs from every cursor, but for expected sets: they halt for the same reason, or have the same tag
and the same value and rest or a failure at the same position, on the same symbol. This is so
however deep calls may nest, and for the parsers of the grammars. -/
theorem Rules.sight_of_relabelled {rules rules' : Rules σ ρ} (hrr : rules.Relabelled rules')
    {g g' : Grammar σ ρ α} (hgg : g.Relabelled g') (c : Cursor σ) :
    (∀ depth, Sighting.unlabelled <$> (g.toParser fun r => rules.call depth r).sight c =
      Sighting.unlabelled <$> (g'.toParser fun r => rules'.call depth r).sight c) ∧
    Sighting.unlabelled <$> (rules.parser g).sight c =
      Sighting.unlabelled <$> (rules'.parser g').sight c := by
  have hsight (depth : Nat) :
      Sighting.unlabelled <$> (g.toParser fun r => rules.call depth r).sight c =
        Sighting.unlabelled <$> (g'.toParser fun r => rules'.call depth r).sight c := by
    have hparsers : Link.unlabelled.Parsers (g.toParser fun r => rules.call depth r)
        (g'.toParser fun r => rules'.call depth r) :=
      Link.unlabelled_compatible.toParser_call (fun _ => Link.unlabelled_refl _) hrr
        (fun _ g _ => g.within_of_forall fun _ => trivial) hgg
        (g.within_of_forall fun _ => trivial) depth
    simp only [Parser.sight, ← LawfulFunctor.comp_map]
    exact (hparsers rfl).map_eq id False.elim fun _ _ => Link.Outcomes.unlabelled_sight_eq
  have hdepth : rules'.depthFrom c = rules.depthFrom c := by
    simp only [Rules.depthFrom, hrr.count_eq]
  refine ⟨hsight, ?_⟩
  simp only [Parser.sight, Rules.parser, hdepth]
  exact hsight (rules.depthFrom c)

/-- The depth of nested brackets, with names of its own for what is expected. -/
def namedNesting : Grammar Char NestingRef Nat :=
  (((((Grammar.chr '(').seqRight (.ref .nesting)).seqLeft
    ((Grammar.satisfy (· == ')')).label "closing bracket")).map (· + 1)).orElse
      (.retn 0)).label "brackets"

/-- The rule of `namedNesting`. -/
def namedNestingRules : Rules Char NestingRef where
  count := 1
  find {α} r := match α, r with
    | _, .nesting => .known namedNesting

theorem relabelled_nesting : nesting.Relabelled namedNesting := by
  refine .added (w := .label "brackets") trivial (.orElse (.map _ ?_) (.refl _))
  exact .seqLeft (.refl _) (Grammar.Relabelled.rename (.refl _) _ _)

/-- A bracket that is not closed is reported at the same place whatever it is called, though by
other names. -/
theorem sight_of_namedNesting :
    (∃ m m', (nestingRules.parser nesting).sight (.start 0 #['(', 'x']) =
        pure ⟨true, false, .ok (.error m)⟩ ∧
      (namedNestingRules.parser namedNesting).sight (.start 0 #['(', 'x']) =
        pure ⟨true, false, .ok (.error m')⟩ ∧ m.expected ≠ m'.expected) ∧
    Sighting.unlabelled <$> (nestingRules.parser nesting).sight (.start 0 #['(', 'x']) =
      Sighting.unlabelled <$> (namedNestingRules.parser namedNesting).sight
        (.start 0 #['(', 'x']) := by
  have hrr : nestingRules.Relabelled namedNestingRules :=
    ⟨rfl, fun r => by cases r; exact .known relabelled_nesting⟩
  refine ⟨⟨_, _, rfl, rfl, by decide⟩, ?_⟩
  exact (Rules.sight_of_relabelled hrr relabelled_nesting _).2

end ParserKit
