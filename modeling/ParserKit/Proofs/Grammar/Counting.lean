import Mathlib.Data.Set.Card
import ParserKit.Slots.Rules

/-!
# Counting rules

A system of rules says how many rules it has, and its parsers allow for as many nested calls as
that number admits. References may be many and may find the same definition, or none; what counts
are the definitions.

## Main definitions

* `Rules.definitions`: the definitions that references find
* `Rules.Counted`: there are no more definitions than the system says

## Main results

* `Rules.Counted.of_subset`: how to count rules
* `Slots.counted_rules`: the rules of slots are counted
-/

namespace ParserKit

variable {σ : Type} {ρ : Type → Type}

namespace Rules

/-- The definitions that references find, each with the type of its values. -/
def definitions (rules : Rules σ ρ) : Set ((α : Type) × Grammar σ ρ α) :=
  {x | ∃ r : ρ x.1, rules.find r = .known x.2}

/-- There are no more definitions than the system says that it has rules. -/
structure Counted (rules : Rules σ ρ) : Prop where
  finite : rules.definitions.Finite
  ncard_le : rules.definitions.ncard ≤ rules.count

/-- It is enough to know a set that holds all definitions and is not too large. -/
theorem Counted.of_subset {rules : Rules σ ρ} {s : Set ((α : Type) × Grammar σ ρ α)}
    (hs : s.Finite) (hsub : rules.definitions ⊆ s) (hcard : s.ncard ≤ rules.count) :
    rules.Counted :=
  ⟨hs.subset hsub, (Set.ncard_le_ncard hsub hs).trans hcard⟩

end Rules

/-- A reference to a slot finds nothing, or the definition in one of the slots made so far. -/
theorem Slots.exists_of_lookup {k : Kind} {s : Slots k} {depth : Nat} {α : Type} {r : RuleRef α}
    {g : Grammar k.Carrier RuleRef α} (h : s.lookup depth r = .known g) :
    ∃ i < s.size, ∃ p, s.definition? i = some p ∧
      (⟨α, g⟩ : (α : Type) × Grammar k.Carrier RuleRef α) = ⟨Value, s.grammar depth p⟩ := by
  cases r with
  | slot r =>
    -- whatever the kind of the reference, it finds the definition in the slot of its number
    obtain ⟨i, hi⟩ : ∃ i, s.lookup depth (.slot (.owning i)) = .known g := by
      cases r with
      | weak i =>
        refine ⟨i, ?_⟩
        simp only [Slots.lookup] at h ⊢
        split at h
        · exact h
        · cases h
      | owning i => exact ⟨i, h⟩
      | inline i => exact ⟨i, h⟩
    cases hp : s.definition? i with
    | none => simp [Slots.lookup, hp] at hi
    | some p =>
      have hlt : i < s.size := by
        by_contra hge
        have hnone : s.slots[i]? = none := Array.getElem?_eq_none (Nat.le_of_not_lt hge)
        simp [Slots.definition?, hnone] at hp
      simp only [Slots.lookup, hp, Definition.known.injEq] at hi
      exact ⟨i, hlt, p, hp, by rw [hi]⟩

/-- The rules of slots are counted: there are as many as slots. -/
theorem Slots.counted_rules {k : Kind} (s : Slots k) (depth : Nat) : (s.rules depth).Counted := by
  let inSlot (i : Nat) : (α : Type) × Grammar k.Carrier RuleRef α :=
    ⟨Value, ((s.definition? i).map (s.grammar depth)).getD .fail⟩
  have hsub : (s.rules depth).definitions ⊆ inSlot '' (Finset.range s.size : Set Nat) := by
    rintro ⟨α, g⟩ ⟨r, hr⟩
    obtain ⟨i, hi, p, hp, hg⟩ := Slots.exists_of_lookup hr
    refine ⟨i, by simpa using hi, ?_⟩
    simp only [inSlot, hp, Option.map_some, Option.getD_some]
    exact hg.symm
  have hfin : (inSlot '' (Finset.range s.size : Set Nat)).Finite :=
    (Finset.finite_toSet _).image inSlot
  refine .of_subset hfin hsub ?_
  calc (inSlot '' (Finset.range s.size : Set Nat)).ncard
      ≤ (Finset.range s.size : Set Nat).ncard := Set.ncard_image_le (Finset.finite_toSet _)
    _ = s.size := by rw [Set.ncard_coe_finset, Finset.card_range]

end ParserKit
