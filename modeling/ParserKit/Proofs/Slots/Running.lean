import ParserKit.Proofs.Depth

/-!
# Running what is in a slot

A reference to a slot is run as a call of the definition in it, with room for one call less than the
definition has when it is run itself. That makes no difference: the room is enough for both. So what
is seen of a reference is what is seen of the definition, whatever the definition refers to.

Blueprints may contain parsers that move the cursor themselves. They do not move it back, and this
is all that the room for calls asks of them.

## Main results

* `Parser.onward_take`, `Parser.onward_takeLater`, …: parsers that move the cursor do not move it
  back
* `Blueprint.parametric`: blueprints contain no other parsers made by other means
* `Slots.run_weak_of_dropped`, `Slots.run_of_unassigned`: references that find no definition
* `Slots.sight_weak`, `Slots.sight_owning`: references that find one
-/

namespace ParserKit

open Grammar

/-! ## Parsers that move the cursor themselves -/

namespace Parser

variable {σ : Type}

theorem onward_take (count : Nat) : (take count : Parser σ Nat).Onward := by
  rintro d c _ ⟨rfl, hdc⟩
  simp only [take]
  split
  · exact .done (.empty (.ok 0 ⟨rfl, hdc⟩))
  · cases hrest : c.advanceBy count with
    | error f => exact .fault rfl
    | ok rest =>
      have hreach : d.Reaches rest := hdc.trans (Cursor.reaches_of_advanceBy hrest)
      exact .done (.consumed fun _ => .done (.ok count ⟨rfl, hreach⟩))

/-- A success behind no symbols counts as consumption, but it does not go back. -/
theorem onward_takeLater (count : Nat) : (takeLater count : Parser σ Nat).Onward := by
  rintro d c _ ⟨rfl, hdc⟩
  refine .done (.consumed fun _ => ?_)
  simp only [Deferred.take]
  cases hrest : c.advanceBy count with
  | error f => exact .fault rfl
  | ok rest => exact .done (.ok count ⟨rfl, hdc.trans (Cursor.reaches_of_advanceBy hrest)⟩)

theorem onward_next : (next : Parser σ σ).Onward := by
  rintro d c _ ⟨rfl, hdc⟩
  simp only [next]
  cases c.current with
  | error f => exact .fault rfl
  | ok a =>
    cases hrest : c.advance with
    | error f => exact .fault rfl
    | ok rest =>
      have hreach : d.Reaches rest := hdc.trans (Cursor.reaches_of_advance hrest)
      exact .done (.consumed fun _ => .done (.ok a ⟨rfl, hreach⟩))

theorem onward_nextBlind : (nextBlind : Parser σ Unit).Onward := by
  rintro d c _ ⟨rfl, hdc⟩
  simp only [nextBlind]
  cases hrest : c.advance with
  | error f => exact .fault rfl
  | ok rest =>
    have hreach : d.Reaches rest := hdc.trans (Cursor.reaches_of_advance hrest)
    exact .done (.consumed fun _ => .done (.ok () ⟨rfl, hreach⟩))

end Parser

/-! ## Blueprints -/

section Blueprints

variable {ρ : Type → Type}

theorem Grammar.Parametric.times {σ : Type} {α : Type} {P : {α : Type} → Parser σ α → Prop}
    {p : Grammar σ ρ α} (hp : p.Parametric P) (n : Nat) : (p.times n).Parametric P := by
  induction n with
  | zero => exact Grammar.Within.parametric trivial
  | succ n ih => exact hp.bind fun a => ih.map _

namespace Blueprint

variable {σ : Type} {A : Form → Prop}

theorem within_againGrammar (k : Kind) (v : Value) :
    (againGrammar k v : Grammar k.Carrier ρ Value).Within A := by
  unfold againGrammar
  split <;> trivial

theorem within_rejectDigitGrammar (v : Value) :
    (rejectDigitGrammar v : Grammar σ ρ Value).Within A := by
  unfold rejectDigitGrammar
  split
  · split <;> trivial
  · trivial

theorem within_literalGrammar (k : Kind) (v : Value) :
    (literalGrammar k v : Grammar k.Carrier ρ Value).Within A := by
  cases k with
  | char => exact within_literal _
  | _ => trivial

theorem within_hexCharGrammar (v : Value) :
    (hexCharGrammar v : Grammar σ ρ Value).Within A := by
  unfold hexCharGrammar
  dsimp only
  split <;> trivial

end Blueprint

mutual

/-- The grammar of a blueprint is parametric if those of its references are: the parsers that are
made by other means do not go back. -/
theorem Blueprint.parametric {ν : Type} {k : Kind} {env : ν → Grammar k.Carrier ρ Value}
    (henv : ∀ r, (env r).Parametric Parser.Onward) (p : Blueprint ν k) :
    (p.grammar env).Parametric Parser.Onward :=
  match k, p with
  | _, .retn _ | _, .retnWith _ | _, .fail | _, .eof | _, .satisfy _ =>
    Grammar.Within.parametric trivial
  | _, .bind p next => (p.parametric henv).bind (next.parametric henv)
  | _, .map f p => (p.parametric henv).map f.apply
  | _, .seqRight p q => (p.parametric henv).seqRight (q.parametric henv)
  | _, .seqLeft p q => (p.parametric henv).seqLeft (q.parametric henv)
  | _, .both p q => ((p.parametric henv).both (q.parametric henv)).map _
  | _, .between o c p => .between (o.parametric henv) (c.parametric henv) (p.parametric henv)
  | _, .orElse p q => (p.parametric henv).orElse (q.parametric henv)
  | _, .choice ps => .choice (ps.parametric henv)
  | _, .attempt p => (p.parametric henv).attempt
  | _, .label name p => (p.parametric henv).label name
  | _, .optional p => (p.parametric henv).optional.map _
  | _, .option v p => (p.parametric henv).option v
  | _, .many p => (p.parametric henv).many.map _
  | _, .many1 p => (p.parametric henv).many1.map _
  | _, .skipMany p => (p.parametric henv).skipMany.map _
  | _, .sepBy p sep => ((p.parametric henv).sepBy (sep.parametric henv)).map _
  | _, .sepBy1 p sep => ((p.parametric henv).sepBy1 (sep.parametric henv)).map _
  | _, .delay p => p.parametric henv
  | _, .ref r => henv r
  | _, .take count => .map _ (.raw (Parser.onward_take count))
  | _, .takeLater count => .map _ (.raw (Parser.onward_takeLater count))
  | _, .next => .map _ (.raw Parser.onward_next)
  | _, .nextBlind => .map _ (.raw Parser.onward_nextBlind)
  | _, .mapTimes count f p => (p.parametric henv).mapTimes f.apply count
  | _, .thenLeft count p => (p.parametric henv).thenLeft count
  | _, .thenRight count p => (p.parametric henv).thenRight count
  | _, .chr _ | _, .letter | _, .digit | _, .alphaNum | _, .space | _, .oneOf _ | _, .noneOf _
  | _, .blanks => Grammar.Within.parametric trivial
  | _, .literal text => .map _ (Grammar.Within.parametric (within_literal text))
  | _, .integer => .map _ (Grammar.Within.parametric within_integer)
  | _, .decimal => .map _ (Grammar.Within.parametric within_decimal)
  | _, .lexeme p => (p.parametric henv).seqLeft (Grammar.Within.parametric within_blanks)
  | _, .regex _ => .map _ (Grammar.Within.parametric (within_regex.2 nofun))

theorem Blueprints.parametric {ν : Type} {k : Kind} {env : ν → Grammar k.Carrier ρ Value}
    (henv : ∀ r, (env r).Parametric Parser.Onward) (ps : Blueprints ν k) :
    ∀ g ∈ ps.grammars env, g.Parametric Parser.Onward :=
  match k, ps with
  | _, .nil => nofun
  | _, .cons p ps => List.forall_mem_cons.2 ⟨p.parametric henv, ps.parametric henv⟩

theorem Next.parametric {ν : Type} {k : Kind} {env : ν → Grammar k.Carrier ρ Value}
    (henv : ∀ r, (env r).Parametric Parser.Onward) (next : Next ν k) (v : Value) :
    (next.grammar env v).Parametric Parser.Onward :=
  match k, next with
  | _, .pure => Grammar.Within.parametric trivial
  | k, .again => Grammar.Within.parametric (Blueprint.within_againGrammar k v)
  | _, .rejectDigit => Grammar.Within.parametric (Blueprint.within_rejectDigitGrammar v)
  | _, .run p => p.parametric henv
  | _, .pair p => (p.parametric henv).map _
  | _, .map _ => Grammar.Within.parametric trivial
  | _, .count p => by
    cases v with
    | int n => exact ((p.parametric henv).times n.toInt.toNat).map _
    | _ => exact Grammar.Within.parametric trivial
  | k, .literal => Grammar.Within.parametric (Blueprint.within_literalGrammar k v)
  | _, .hexChar => Grammar.Within.parametric (Blueprint.within_hexCharGrammar v)
  | _, .case branches default => branches.parametric henv v (default.parametric henv)

theorem Branches.parametric {ν : Type} {k : Kind} {env : ν → Grammar k.Carrier ρ Value}
    (henv : ∀ r, (env r).Parametric Parser.Onward) (branches : Branches ν k) (v : Value)
    {default : Grammar k.Carrier ρ Value} (hdefault : default.Parametric Parser.Onward) :
    (branches.grammar env v default).Parametric Parser.Onward :=
  match k, branches with
  | _, .nil => hdefault
  | _, .cons w p rest => by
    simp only [Branches.grammar]
    split
    · exact p.parametric henv
    · exact rest.parametric henv v hdefault

end

end Blueprints

/-! ## References -/

namespace Slots

variable {k : Kind} (s : Slots k) {i : Nat} {p : Blueprint SlotRef k} {c : Cursor k.Carrier}

/-- A blueprint in whose place definitions are put is parametric, as these are. -/
theorem parametric_grammar (depth : Nat) (p : Blueprint SlotRef k) :
    (s.grammar depth p).Parametric Parser.Onward := by
  refine p.parametric fun r => .unfold (fun r g hg => ?_) depth _
  unfold expand at hg
  split at hg
  · split at hg
    · next q _ =>
      cases hg
      exact q.parametric fun r => .ref _
    · cases hg
  · cases hg

theorem parametric_rules (depth : Nat) : (s.rules depth).Parametric Parser.Onward := by
  intro α r g hg
  obtain ⟨-, -, p, -, heq⟩ := exists_of_lookup hg
  cases heq
  exact s.parametric_grammar depth p

theorem parser_run (p : Blueprint SlotRef k) (c : Cursor k.Carrier) :
    (s.parser p).run c =
      ((s.grammar (s.depthFrom c) p).toParser fun r =>
        (s.rules (s.depthFrom c)).call (s.size * (c.left + 1) + 1) r).run c :=
  rfl

/-- A weak reference is run as a call, with all the room that there is. -/
theorem run_weak (i : Nat) (c : Cursor k.Carrier) :
    (s.parser (.ref (.weak i))).run c =
      ((s.rules (s.depthFrom c)).call (s.size * (c.left + 1) + 1) (.slot (.weak i))).run c :=
  rfl

/-- An owning reference runs the definition of its slot. -/
theorem run_owning (i : Nat) (c : Cursor k.Carrier) :
    (s.parser (.ref (.owning i))).run c =
      ((s.rules (s.depthFrom c)).call (s.size * (c.left + 1) + 1) (.slot (.owning i))).run c :=
  rfl

/-- A weak reference to a slot that has been dropped is a fault. -/
theorem run_weak_of_dropped (h : s.isAlive i = false) :
    (s.parser (.ref (.weak i))).run c = Run.fault (.dropped c.position) := by
  have hfind : s.lookup (s.depthFrom c) (.slot (.weak i)) = .dropped := by
    simp only [lookup, h, Bool.false_eq_true, if_false]
  simp only [run_weak, Rules.call, rules, hfind]

/-- Through a weak reference to a slot that is there, it is a fault to run what is not defined. -/
theorem run_weak_of_unassigned (h : s.isAlive i = true) (hp : s.definition? i = none) :
    (s.parser (.ref (.weak i))).run c = Run.fault (.unassigned c.position) := by
  have hfind : s.lookup (s.depthFrom c) (.slot (.weak i)) = .unassigned := by
    simp only [lookup, h, hp, if_true]
  simp only [run_weak, Rules.call, rules, hfind]

theorem run_owning_of_unassigned (hp : s.definition? i = none) :
    (s.parser (.ref (.owning i))).run c = Run.fault (.unassigned c.position) := by
  have hfind : s.lookup (s.depthFrom c) (.slot (.owning i)) = .unassigned := by
    simp only [lookup, hp]
  simp only [run_owning, Rules.call, rules, hfind]

/-- A call that finds the definition of a slot is seen to do what the definition does: it has room
for one call less, and that is enough. -/
theorem sight_call {r : RuleRef Value}
    (hr : s.lookup (s.depthFrom c) r = .known (s.grammar (s.depthFrom c) p)) :
    ((s.rules (s.depthFrom c)).call (s.size * (c.left + 1) + 1) r).sight c =
      (s.parser p).sight c := by
  have hless :
      ((s.grammar (s.depthFrom c) p).toParser fun r =>
        (s.rules (s.depthFrom c)).call (s.size * (c.left + 1) + 1) r).sight c =
      ((s.grammar (s.depthFrom c) p).toParser fun r =>
        (s.rules (s.depthFrom c)).call (s.size * (c.left + 1)) r).sight c :=
    Rules.sight_definition_eq (s.parametric_rules _) (s.counted_rules _) hr (Nat.le_refl _)
      (Nat.le_succ _)
  rw [Parser.sight, Parser.sight] at hless
  rw [Rules.call_succ_of_known hr, Parser.sight, Parser.sight, parser_run, hless]

/-- A weak reference to a slot that is kept is seen to do what the definition does. -/
theorem sight_weak (h : s.isAlive i = true) (hp : s.definition? i = some p) :
    (s.parser (.ref (.weak i))).sight c = (s.parser p).sight c := by
  rw [Parser.sight, run_weak]
  exact s.sight_call (by simp only [lookup, h, hp, if_true])

/-- So is an owning reference. -/
theorem sight_owning (hp : s.definition? i = some p) :
    (s.parser (.ref (.owning i))).sight c = (s.parser p).sight c := by
  rw [Parser.sight, run_owning]
  exact s.sight_call (by simp only [lookup, hp])

/-! ## The faults of references -/

theorem fault_inj {α : Type} {f f' : Fault} : (Run.fault f : Exec α) = Run.fault f' ↔ f = f' := by
  refine ⟨fun h => ?_, congrArg _⟩
  exact Halt.fault.inj (Except.error.inj h)

/-- A weak reference is a fault of this kind if its slot has been dropped, or if the definition
is. -/
theorem run_weak_eq_dropped_iff :
    (s.parser (.ref (.weak i))).run c = Run.fault (.dropped c.position) ↔
      s.isAlive i = false ∨ s.isAlive i = true ∧ ∃ p, s.definition? i = some p ∧
        (s.parser p).run c = Run.fault (.dropped c.position) := by
  cases halive : s.isAlive i with
  | false => simp [s.run_weak_of_dropped halive]
  | true =>
    cases hp : s.definition? i with
    | none => simp [s.run_weak_of_unassigned halive hp, fault_inj]
    | some p => simpa using Parser.run_eq_fault_iff_of_sight (s.sight_weak halive hp) _

/-- It is a fault of this kind if the slot has been kept without a definition. -/
theorem run_weak_eq_unassigned_iff :
    (s.parser (.ref (.weak i))).run c = Run.fault (.unassigned c.position) ↔
      s.isAlive i = true ∧ (s.definition? i = none ∨ ∃ p, s.definition? i = some p ∧
        (s.parser p).run c = Run.fault (.unassigned c.position)) := by
  cases halive : s.isAlive i with
  | false => simp [s.run_weak_of_dropped halive, fault_inj]
  | true =>
    cases hp : s.definition? i with
    | none => simp [s.run_weak_of_unassigned halive hp]
    | some p => simpa using Parser.run_eq_fault_iff_of_sight (s.sight_weak halive hp) _

/-- An owning reference never finds its own slot dropped: only what is run behind it can. -/
theorem run_owning_eq_dropped_iff :
    (s.parser (.ref (.owning i))).run c = Run.fault (.dropped c.position) ↔
      ∃ p, s.definition? i = some p ∧
        (s.parser p).run c = Run.fault (.dropped c.position) := by
  cases hp : s.definition? i with
  | none => simp [s.run_owning_of_unassigned hp, fault_inj]
  | some p => simpa using Parser.run_eq_fault_iff_of_sight (s.sight_owning hp) _

/-- An owning reference tells that a slot is undefined if its own slot is, or if what it runs tells
so. -/
theorem run_owning_eq_unassigned_iff :
    (s.parser (.ref (.owning i))).run c = Run.fault (.unassigned c.position) ↔
      s.definition? i = none ∨ ∃ p, s.definition? i = some p ∧
        (s.parser p).run c = Run.fault (.unassigned c.position) := by
  cases hp : s.definition? i with
  | none => simp [s.run_owning_of_unassigned hp]
  | some p => simpa using Parser.run_eq_fault_iff_of_sight (s.sight_owning hp) _

end Slots

end ParserKit
