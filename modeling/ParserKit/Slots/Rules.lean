import ParserKit.Blueprint.Meaning
import ParserKit.Grammar.Rules
import ParserKit.Grammar.Unfold
import ParserKit.Slots.Basic

/-!
# Slots as rules

The definitions in slots are a system of rules, and a blueprint that refers to slots is a
grammar over them. Weak and owning references call the rule of the slot; a reference that puts
the definition in place is unfolded.

## Main definitions

* `RuleRef`: references to slots as references to rules
* `Slots.grammar`, `Slots.rules`: blueprints and slots as grammars and rules
* `Slots.parser`: the parser of a blueprint
-/

namespace ParserKit

/-- A reference to a slot; its rule has dynamic values. -/
inductive RuleRef : Type → Type where
  /-- The rule in a slot. -/
  | slot (r : SlotRef) : RuleRef Value

namespace Slots

variable {k : Kind}

/-- How a reference is read: as a call, or as a definition to be put in place. -/
def expand (s : Slots k) : {α : Type} → RuleRef α → RuleRef α ⊕ Grammar k.Carrier RuleRef α
  | _, .slot (.inline i) =>
    match s.definition? i with
    | some p => .inr (p.grammar fun r => .ref (.slot r))
    | none => .inl (.slot (.owning i))
  | _, r => .inl r

/-- The grammar of a blueprint, with definitions put in place up to a depth. -/
def grammar (s : Slots k) (depth : Nat) (p : Blueprint SlotRef k) :
    Grammar k.Carrier RuleRef Value :=
  p.grammar fun r => Grammar.unfold s.expand depth (.slot r)

/-- What a reference finds. Only a weak reference can find its slot dropped. -/
def lookup (s : Slots k) (depth : Nat) :
    {α : Type} → RuleRef α → Definition (Grammar k.Carrier RuleRef α)
  | _, .slot r =>
    let find (i : Nat) : Definition (Grammar k.Carrier RuleRef Value) :=
      match s.definition? i with
      | some p => .known (s.grammar depth p)
      | none => .unassigned
    match r with
    | .weak i => if s.isAlive i then find i else .dropped
    | .owning i => find i
    | .inline i => find i

/-- The slots as rules. -/
def rules (s : Slots k) (depth : Nat) : Rules k.Carrier RuleRef := ⟨s.size, s.lookup depth⟩

/-- How deep definitions are put in place from a cursor on; the bound is that for calls. -/
def depthFrom (s : Slots k) (c : Cursor k.Carrier) : Nat := s.size * (c.left + 1) + 1

/-- The parser of a blueprint. -/
def parser (s : Slots k) (p : Blueprint SlotRef k) : Parser k.Carrier Value where
  run c := ((s.rules (s.depthFrom c)).parser (s.grammar (s.depthFrom c) p)).run c

end Slots

end ParserKit
