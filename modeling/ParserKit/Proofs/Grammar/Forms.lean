import ParserKit.Grammar.Pattern
import ParserKit.Grammar.Rules
import ParserKit.Number.Decimal

/-!
# The forms a grammar uses

Many statements hold for all grammars but those that use some form of expression: a parser made
by other means, which need not keep to any rule, an attempt, or a search. `Grammar.Within A`
says that a grammar uses no such form unless `A` allows it. Continuations count: whatever the
value, the grammar behind it has to keep to the allowed forms too.

The grammar without an end is allowed everywhere. It stands for what lies below the depth of an
unfolding, so a recursive definition that is built anew at each use keeps to the allowed forms if
its levels do.

The grammars over characters use none of the three, and patterns use a search only.

## Main definitions

* `Form`: the forms that statements single out
* `Grammar.Within A`, `Rules.Within A`: no forms but those that `A` allows
* `Grammar.Plain`, `Rules.Plain`: no parsers made by other means

## Main results

* `Grammar.within_choice`, `Grammar.within_literal`, `Grammar.within_integer`, …: the forms of
  grammars built from others
-/

namespace ParserKit

/-- The forms of expressions that statements single out. -/
inductive Form where
  /-- A parser made by other means. -/
  | raw
  /-- An attempt. -/
  | attempt
  /-- A search of the remaining input. -/
  | scan
deriving DecidableEq

namespace Grammar

variable {σ : Type} {ρ : Type → Type} {α β γ : Type} {A : Form → Prop}

/-- The grammar uses none of the forms but those that `A` allows, and neither do the grammars
behind its values. -/
def Within (A : Form → Prop) : {α : Type} → Grammar σ ρ α → Prop
  | _, .retn _ => True
  | _, .retnWith _ => True
  | _, .fail => True
  | _, .satisfy _ => True
  | _, .eof => True
  | _, .scan _ => A .scan
  | _, .raw p => A .raw ∨ p = .diverge
  | _, .bind p k => p.Within A ∧ ∀ a, (k a).Within A
  | _, .map _ p => p.Within A
  | _, .seqRight p q => p.Within A ∧ q.Within A
  | _, .seqLeft p q => p.Within A ∧ q.Within A
  | _, .both p q => p.Within A ∧ q.Within A
  | _, .orElse p q => p.Within A ∧ q.Within A
  | _, .attempt p => A .attempt ∧ p.Within A
  | _, .label _ p => p.Within A
  | _, .many p => p.Within A
  | _, .many1 p => p.Within A
  | _, .sepBy1 p sep => p.Within A ∧ sep.Within A
  | _, .delay make => (make ()).Within A
  | _, .ref _ => True

/-- A grammar over the combinators alone, without parsers made by other means. -/
abbrev Plain (g : Grammar σ ρ α) : Prop := g.Within (· ≠ .raw)

/-- All grammars keep to the forms if all forms are allowed. -/
theorem within_of_forall (hA : ∀ form, A form) (g : Grammar σ ρ α) : g.Within A := by
  induction g with
  | retn | retnWith | fail | satisfy | eof | ref => trivial
  | scan => exact hA .scan
  | raw => exact .inl (hA .raw)
  | bind p k hp hk => exact ⟨hp, hk⟩
  | map f p hp => exact hp
  | seqRight p q hp hq => exact ⟨hp, hq⟩
  | seqLeft p q hp hq => exact ⟨hp, hq⟩
  | both p q hp hq => exact ⟨hp, hq⟩
  | orElse p q hp hq => exact ⟨hp, hq⟩
  | attempt p hp => exact ⟨hA .attempt, hp⟩
  | label name p hp => exact hp
  | many p hp => exact hp
  | many1 p hp => exact hp
  | sepBy1 p sep hp hsep => exact ⟨hp, hsep⟩
  | delay make hmake => exact hmake ()

/-! ## Grammars built from others -/

@[simp] theorem within_between {opening : Grammar σ ρ β} {closing : Grammar σ ρ γ}
    {p : Grammar σ ρ α} :
    (between opening closing p).Within A ↔
      (opening.Within A ∧ p.Within A) ∧ closing.Within A :=
  Iff.rfl

/-- What is derived from other forms uses no form of its own. -/
@[simp] theorem within_optional {p : Grammar σ ρ α} : (optional p).Within A ↔ p.Within A :=
  ⟨fun h => h.1, fun h => ⟨h, trivial⟩⟩

@[simp] theorem within_option {default : α} {p : Grammar σ ρ α} :
    (option default p).Within A ↔ p.Within A :=
  ⟨fun h => h.1, fun h => ⟨h, trivial⟩⟩

@[simp] theorem within_skipMany {p : Grammar σ ρ α} : (skipMany p).Within A ↔ p.Within A :=
  Iff.rfl

@[simp] theorem within_sepBy {p : Grammar σ ρ α} {sep : Grammar σ ρ β} :
    (sepBy p sep).Within A ↔ p.Within A ∧ sep.Within A :=
  ⟨fun h => h.1, fun h => ⟨h, trivial⟩⟩

/-- Alternatives are joined from the left, so a choice uses what any of them uses. -/
@[simp] theorem within_choice {ps : List (Grammar σ ρ α)} :
    (choice ps).Within A ↔ ∀ p ∈ ps, p.Within A := by
  cases ps with
  | nil => simp [choice, Within]
  | cons p ps =>
    have key (p : Grammar σ ρ α) :
        (ps.foldl orElse p).Within A ↔ p.Within A ∧ ∀ q ∈ ps, q.Within A := by
      induction ps generalizing p with
      | nil => simp
      | cons q ps ih => simp [ih, Within, and_assoc]
    simpa [choice] using key p

/-! ## Grammars over characters -/

@[simp] theorem within_chr (c : Char) : (chr c : Grammar Char ρ Char).Within A := trivial

@[simp] theorem within_letter : (letter : Grammar Char ρ Char).Within A := trivial

@[simp] theorem within_digit : (digit : Grammar Char ρ Char).Within A := trivial

@[simp] theorem within_alphaNum : (alphaNum : Grammar Char ρ Char).Within A := trivial

@[simp] theorem within_space : (space : Grammar Char ρ Char).Within A := trivial

@[simp] theorem within_oneOf (chars : String) :
    (oneOf chars : Grammar Char ρ Char).Within A :=
  trivial

@[simp] theorem within_noneOf (chars : String) :
    (noneOf chars : Grammar Char ρ Char).Within A :=
  trivial

/-- Characters that are read one after the other use no form that could be left out, however many
there are. -/
theorem within_chars (cs : List Char) : (chars cs : Grammar Char ρ Unit).Within A := by
  -- `g` reads the characters before those of `cs`
  have key (g : Grammar Char ρ Unit) (hg : g.Within A) :
      (cs.foldl (fun before c => (before.seqRight (chr c)).map fun _ => ()) g).Within A := by
    induction cs generalizing g with
    | nil => exact hg
    | cons c cs ih => exact ih _ ⟨hg, within_chr c⟩
  exact key _ trivial

@[simp] theorem within_literal (text : String) :
    (literal text : Grammar Char ρ String).Within A :=
  within_chars _

@[simp] theorem within_blanks : (blanks : Grammar Char ρ Unit).Within A := trivial

@[simp] theorem within_lexeme {p : Grammar Char ρ α} : (lexeme p).Within A ↔ p.Within A :=
  ⟨fun h => h.1, fun h => ⟨h, within_blanks⟩⟩

theorem within_sign : (sign : Grammar Char ρ Bool).Within A := ⟨within_oneOf _, trivial⟩

theorem within_digits : (digits : Grammar Char ρ (List Nat)).Within A := within_digit

/-- The continuation of an integer is another leaf for each number in range, and a failure else. -/
@[simp] theorem within_integer : (integer : Grammar Char ρ Int64).Within A := by
  refine ⟨within_sign, fun negative => ⟨within_digits, fun ds => ?_⟩⟩
  dsimp only
  split <;> trivial

theorem within_fraction : (fraction : Grammar Char ρ (List Nat)).Within A :=
  within_optional.2 ⟨within_chr '.', within_digits⟩

theorem within_exponent : (exponent : Grammar Char ρ Int).Within A :=
  within_optional.2 ⟨within_oneOf _, within_sign, within_digits⟩

@[simp] theorem within_decimal : (decimal : Grammar Char ρ Float).Within A :=
  ⟨⟨⟨within_sign, within_digits⟩, within_fraction⟩, within_exponent⟩

/-- A pattern is the one grammar over characters that searches. -/
@[simp] theorem within_regex {engine : Regex.Engine} {p : Regex.Pattern engine} :
    (regex p : Grammar Char ρ String).Within A ↔ A .scan :=
  Iff.rfl

end Grammar

/-! ## Systems of rules -/

namespace Rules

variable {σ : Type} {ρ : Type → Type}

/-- The definitions of the rules use none of the forms but those that `A` allows. -/
def Within (A : Form → Prop) (rules : Rules σ ρ) : Prop :=
  ∀ {α : Type} (r : ρ α) (g : Grammar σ ρ α), rules.find r = .known g → g.Within A

/-- Rules over the combinators alone. -/
abbrev Plain (rules : Rules σ ρ) : Prop := rules.Within (· ≠ .raw)

end Rules

end ParserKit
