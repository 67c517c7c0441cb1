import ParserKit.Proofs.Depth
import ParserKit.Proofs.Grammar.References

/-!
# Calls and definitions put in place

A reference can be read as a call of its rule, or as a place where the definition of the rule is
built anew when it is run, with the references in it read in the same way. The two readings agree
level by level: definitions put in place so many levels deep are calls that nest as deep.

Neither reading has an end if it has none however many levels there are. For calls this is what a
parser finds out with the room for calls that it has, so a parser has no end exactly if the
definitions put in place have none, and is else seen to do the same.

## Main definitions

* `Rules.expand`, `Rules.inlined`: definitions in the place of references, level by level

## Main results

* `Rules.toParser_unfold`: a definition put in place is a call
* `Rules.sight_inlined`: the two readings agree
-/

namespace ParserKit

variable {σ : Type} {ρ : Type → Type} {α : Type}

namespace Rules

variable {rules : Rules σ ρ} {g : Grammar σ ρ α}

/-- A reference with a definition is read as the definition; any other stays. -/
def expand (rules : Rules σ ρ) {α : Type} (r : ρ α) : ρ α ⊕ Grammar σ ρ α :=
  match rules.find r with
  | .known g => .inr g
  | _ => .inl r

/-- The grammar with definitions in the place of references, built when they are run, `depth` levels
deep. -/
def inlined (rules : Rules σ ρ) (depth : Nat) (g : Grammar σ ρ α) : Grammar σ ρ α :=
  g.subst fun r => Grammar.unfold rules.expand depth r

/-- A definition put in place, level by level, is a call. -/
theorem toParser_unfold (hrules : rules.Closed) (env : {α : Type} → ρ α → Parser σ α)
    (depth : Nat) {r : ρ α} (hr : rules.Defines ⟨α, r⟩) :
    (Grammar.unfold rules.expand depth r).toParser env = rules.call depth r := by
  induction depth generalizing α with
  | zero =>
    obtain ⟨g, hg⟩ := hr
    simp only [Grammar.unfold, expand, hg]
    rfl
  | succ depth ih =>
    obtain ⟨g, hg⟩ := hr
    rw [call_succ_of_known hg]
    simp only [Grammar.unfold, expand, hg, Grammar.toParser, Grammar.toParser_subst]
    exact Grammar.toParser_congr (fun _ hr' => ih hr') (hrules r g hg)

/-- No calls are left where definitions are put in place: whatever references stand for, the
definitions are calls that nest as deep. -/
theorem toParser_inlined (hrules : rules.Closed) (hg : g.RefsIn rules.Defines)
    (env : {α : Type} → ρ α → Parser σ α) (depth : Nat) :
    (rules.inlined depth g).toParser env = g.toParser fun r => rules.call depth r := by
  rw [inlined, Grammar.toParser_subst]
  exact Grammar.toParser_congr (fun _ hr => toParser_unfold hrules env depth hr) hg

/-- Let each reference in a grammar and in its rules have a definition. With definitions in the
place of references, whatever these stand for, the same is seen as with calls, at each depth and at
the one that a parser has. If the rules are finitely many and made of combinators, any more levels
than that lead to the same tag and the same reply, and a parser has no end, in its run or behind its
reply, exactly if the definitions put in place have none however many levels there are. -/
theorem sight_inlined (hrules : rules.Closed) (hg : g.RefsIn rules.Defines)
    (env : {α : Type} → ρ α → Parser σ α) (c : Cursor σ) :
    (∀ depth, ((rules.inlined depth g).toParser env).sight c =
      (g.toParser fun r => rules.call depth r).sight c) ∧
    ((rules.inlined (rules.depthFrom c) g).toParser env).sight c = (rules.parser g).sight c ∧
    (rules.Counted → rules.Plain → g.Plain →
      (∀ depth, rules.depthFrom c ≤ depth →
        ((rules.inlined depth g).toParser env).sight c = (rules.parser g).sight c) ∧
      ((rules.parser g).run c = Run.exhausted ↔
        ∀ depth, ((rules.inlined depth g).toParser env).run c = Run.exhausted) ∧
      ((rules.parser g).parse c = Run.exhausted ↔
        ∀ depth, ((rules.inlined depth g).toParser env).parse c = Run.exhausted)) := by
  have hcalls := toParser_inlined hrules hg env
  refine ⟨fun depth => by rw [hcalls], by rw [hcalls]; rfl, fun hcounted hplain hg => ?_⟩
  simp only [hcalls]
  refine ⟨fun depth hdepth => ?_, ?_, ?_⟩
  · exact sight_parser_eq hplain hcounted hg c hdepth
  · exact run_eq_exhausted_iff hplain hcounted hg
  · exact parse_eq_exhausted_iff hplain hcounted hg

end Rules

theorem closed_nestingRules : nestingRules.Closed := by
  intro α r g h
  cases r
  cases h
  exact ⟨⟨⟨trivial, ⟨nesting, rfl⟩⟩, trivial⟩, trivial⟩

/-- Two levels of brackets are read by definitions in place as by calls, and with enough levels
there is an end. -/
theorem inlined_of_nesting :
    ((nestingRules.inlined 9 nesting).toParser fun _ => .fail).sight
        (.start 0 #['(', '(', ')', ')']) =
      (nestingRules.parser nesting).sight (.start 0 #['(', '(', ')', ')']) ∧
    ∃ depth, ((nestingRules.inlined depth nesting).toParser fun _ => .fail).run
        (.start 0 #['(', '(', ')', ')']) ≠ Run.exhausted := by
  have hrefs : nesting.RefsIn nestingRules.Defines := closed_nestingRules .nesting nesting rfl
  have hplain : nesting.Plain := plain_nestingRules .nesting nesting rfl
  obtain ⟨-, -, hagree⟩ := Rules.sight_inlined closed_nestingRules hrefs (fun _ => .fail)
    (.start 0 #['(', '(', ')', ')'])
  obtain ⟨hsight, hrun, -⟩ := hagree counted_nestingRules plain_nestingRules hplain
  exact ⟨hsight 9 (by decide), not_forall.1 fun hall => nomatch hrun.2 hall⟩

end ParserKit
