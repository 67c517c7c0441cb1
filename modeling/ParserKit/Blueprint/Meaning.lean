import ParserKit.Blueprint.Basic
import ParserKit.Number.Decimal
import ParserKit.Parser.Primitive
import ParserKit.Text.Hexadecimal

/-!
# The grammar of a blueprint

A blueprint stands for a grammar whose values are dynamic. The grammars of the library keep
their own types of values; a blueprint wraps them up where it uses them.

## Main definitions

* `Blueprint.grammar`: the grammar of a blueprint
* `Next.grammar`: the grammar that goes on from a value
-/

namespace ParserKit

open Grammar

/-- `p` a number of times in a row. -/
def Grammar.times {σ : Type} {ρ : Type → Type} {α : Type} (p : Grammar σ ρ α) :
    Nat → Grammar σ ρ (List α)
  | 0 => retn []
  | n + 1 => p.bind fun a => (p.times n).map (a :: ·)

namespace Blueprint

variable {ρ : Type → Type}

/-- A word as a value. -/
def wordValue (n : Nat) : Value := .int (Int64.ofNat n)

/-- The symbol that a value stands for, read once more. -/
def againGrammar (k : Kind) (v : Value) : Grammar k.Carrier ρ Value :=
  match k.ofValue? v with
  | some a =>
    .map k.toValue (.label (Symbol.quoted a) (.satisfy fun b => decide (b = a)))
  | none => .fail

/-- Anything but a digit. -/
def rejectDigitGrammar {σ : Type} : Value → Grammar σ ρ Value
  | .char c => if isDecimal c then .fail else .retn (.char (Value.upperAscii c))
  | v => .retn v

/-- The text inside a value, read once more; only characters make up text. -/
def literalGrammar : (k : Kind) → Value → Grammar k.Carrier ρ Value
  | .char, v => (Grammar.literal v.concat).map .text
  | _, _ => .fail

/-- The code that hexadecimal digits spell, in a 32-bit word. -/
def hexCode (digits : List Char) : UInt32 :=
  digits.foldl (fun acc c => (acc <<< 4) ||| UInt32.ofNat ((Text.hexValue? c).getD 0)) 0

/-- The character with the code inside a value. -/
def hexCharGrammar {σ : Type} (v : Value) : Grammar σ ρ Value :=
  let code := hexCode v.chars
  if h : code.isValidChar then .retn (.char ⟨code, h⟩)
  else .label "unicode scalar value" .fail

end Blueprint

section Meaning

variable {ρ : Type → Type} {ν : Type}

mutual

/-- The grammar of a blueprint, where `env` gives the grammars of its references. -/
def Blueprint.grammar {k : Kind} (env : ν → Grammar k.Carrier ρ Value) :
    Blueprint ν k → Grammar k.Carrier ρ Value
  | .retn v => .retn v
  | .retnWith v => .retnWith fun _ => v
  | .fail => .fail
  | .eof => .map (fun _ => .unit) .eof
  | .satisfy p => .map k.toValue (.satisfy p.test)
  | .bind p next => .bind (p.grammar env) fun v => next.grammar env v
  | .map f p => .map f.apply (p.grammar env)
  | .seqRight p q => .seqRight (p.grammar env) (q.grammar env)
  | .seqLeft p q => .seqLeft (p.grammar env) (q.grammar env)
  | .both p q => .map (fun (a, b) => .pair a b) (.both (p.grammar env) (q.grammar env))
  | .between o c p => Grammar.between (o.grammar env) (c.grammar env) (p.grammar env)
  | .orElse p q => .orElse (p.grammar env) (q.grammar env)
  | .choice ps => Grammar.choice (ps.grammars env)
  | .attempt p => .attempt (p.grammar env)
  | .label name p => .label name (p.grammar env)
  | .optional p => .map (fun v => v.elim .none .some) (Grammar.optional (p.grammar env))
  | .option v p => Grammar.option v (p.grammar env)
  | .many p => .map .list (.many (p.grammar env))
  | .many1 p => .map .list (.many1 (p.grammar env))
  | .skipMany p => .map (fun _ => .unit) (Grammar.skipMany (p.grammar env))
  | .sepBy p sep => .map .list (Grammar.sepBy (p.grammar env) (sep.grammar env))
  | .sepBy1 p sep => .map .list (.sepBy1 (p.grammar env) (sep.grammar env))
  | .delay p => .delay fun _ => p.grammar env
  | .ref r => env r
  | .take count => .map Blueprint.wordValue (.raw (.take count))
  | .takeLater count => .map Blueprint.wordValue (.raw (.takeLater count))
  | .next => .map k.toValue (.raw .next)
  | .nextBlind => .map (fun _ => .unit) (.raw .nextBlind)
  | .mapTimes count f p => Grammar.mapTimes f.apply (p.grammar env) count
  | .thenLeft count p => Grammar.thenLeft (p.grammar env) count
  | .thenRight count p => Grammar.thenRight (p.grammar env) count
  | .chr c => .map .char (Grammar.chr c)
  | .letter => .map .char Grammar.letter
  | .digit => .map .char Grammar.digit
  | .alphaNum => .map .char Grammar.alphaNum
  | .space => .map .char Grammar.space
  | .oneOf chars => .map .char (Grammar.oneOf chars)
  | .noneOf chars => .map .char (Grammar.noneOf chars)
  | .literal text => .map .text (Grammar.literal text)
  | .integer => .map .int Grammar.integer
  | .decimal => .map .float Grammar.decimal
  | .blanks => .map (fun _ => .unit) Grammar.blanks
  | .lexeme p => Grammar.lexeme (p.grammar env)
  | .regex pattern => .map .text (Grammar.regex pattern)

/-- The grammars of a row of blueprints. -/
def Blueprints.grammars {k : Kind} (env : ν → Grammar k.Carrier ρ Value) :
    Blueprints ν k → List (Grammar k.Carrier ρ Value)
  | .nil => []
  | .cons p ps => p.grammar env :: ps.grammars env

/-- The grammar that goes on from a value. -/
def Next.grammar {k : Kind} (env : ν → Grammar k.Carrier ρ Value) (v : Value) :
    Next ν k → Grammar k.Carrier ρ Value
  | .pure => .retn v
  | .again => Blueprint.againGrammar k v
  | .rejectDigit => Blueprint.rejectDigitGrammar v
  | .run p => p.grammar env
  | .pair p => .map (fun b => .pair v b) (p.grammar env)
  | .map f => .retn (f.apply v)
  | .count p =>
    match v with
    | .int n => .map .list (Grammar.times (p.grammar env) n.toInt.toNat)
    | _ => .fail
  | .literal => Blueprint.literalGrammar k v
  | .hexChar => Blueprint.hexCharGrammar v
  | .case branches default => branches.grammar env v (default.grammar env)

/-- The grammar that belongs to a value, or else `default`. -/
def Branches.grammar {k : Kind} (env : ν → Grammar k.Carrier ρ Value) (v : Value)
    (default : Grammar k.Carrier ρ Value) : Branches ν k → Grammar k.Carrier ρ Value
  | .nil => default
  | .cons w p rest => if w == v then p.grammar env else rest.grammar env v default

end

end Meaning

end ParserKit
