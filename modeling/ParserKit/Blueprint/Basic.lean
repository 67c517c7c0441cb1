import ParserKit.Blueprint.Kind
import ParserKit.Regex.Engine
import ParserKit.Value.Operation

/-!
# Blueprints

A blueprint describes a parser by data alone: no functions, and dynamic values throughout. It
can be written down, searched for the references in it, and turned into a grammar.

## Main definitions

* `Blueprint ν k`: descriptions of parsers over symbols of kind `k`, with references `ν`
* `Next ν k`: what follows a value in `Blueprint.bind`
* `Blueprint.resolve`: blueprints in the place of references
* `Blueprint.refs`: the references of a blueprint
-/

namespace ParserKit

mutual

/-- A described parser. -/
inductive Blueprint (ν : Type) : Kind → Type where
  /-- Succeed with a value. -/
  | retn {k : Kind} (v : Value) : Blueprint ν k
  /-- Succeed with a value built for each run. -/
  | retnWith {k : Kind} (v : Value) : Blueprint ν k
  /-- Fail, expecting nothing. -/
  | fail {k : Kind} : Blueprint ν k
  /-- Succeed at the end of the input. -/
  | eof {k : Kind} : Blueprint ν k
  /-- Read a symbol that passes a test. -/
  | satisfy {k : Kind} (p : Predicate k) : Blueprint ν k
  /-- Go on with what the value chooses. -/
  | bind {k : Kind} (p : Blueprint ν k) (next : Next ν k) : Blueprint ν k
  /-- Apply a function to the value. -/
  | map {k : Kind} (f : Value.Operation) (p : Blueprint ν k) : Blueprint ν k
  /-- Run both, keep the second value. -/
  | seqRight {k : Kind} (p q : Blueprint ν k) : Blueprint ν k
  /-- Run both, keep the first value. -/
  | seqLeft {k : Kind} (p q : Blueprint ν k) : Blueprint ν k
  /-- Run both, keep the pair of values. -/
  | both {k : Kind} (p q : Blueprint ν k) : Blueprint ν k
  /-- Run the third between the first two. -/
  | between {k : Kind} (opening closing p : Blueprint ν k) : Blueprint ν k
  /-- Try the first, then the second. -/
  | orElse {k : Kind} (p q : Blueprint ν k) : Blueprint ν k
  /-- Try one after the other. -/
  | choice {k : Kind} (ps : Blueprints ν k) : Blueprint ν k
  /-- Fail without consumption. -/
  | attempt {k : Kind} (p : Blueprint ν k) : Blueprint ν k
  /-- Name what is expected. -/
  | label {k : Kind} (name : String) (p : Blueprint ν k) : Blueprint ν k
  /-- A present or an absent value. -/
  | optional {k : Kind} (p : Blueprint ν k) : Blueprint ν k
  /-- The value, or a default one. -/
  | option {k : Kind} (default : Value) (p : Blueprint ν k) : Blueprint ν k
  /-- Any number of repetitions. -/
  | many {k : Kind} (p : Blueprint ν k) : Blueprint ν k
  /-- At least one repetition. -/
  | many1 {k : Kind} (p : Blueprint ν k) : Blueprint ν k
  /-- Any number of repetitions, without their values. -/
  | skipMany {k : Kind} (p : Blueprint ν k) : Blueprint ν k
  /-- Any number of repetitions, with separators between. -/
  | sepBy {k : Kind} (p sep : Blueprint ν k) : Blueprint ν k
  /-- At least one repetition, with separators between. -/
  | sepBy1 {k : Kind} (p sep : Blueprint ν k) : Blueprint ν k
  /-- Built when it is run. -/
  | delay {k : Kind} (p : Blueprint ν k) : Blueprint ν k
  /-- A reference. -/
  | ref {k : Kind} (r : ν) : Blueprint ν k
  /-- Pass over a number of symbols. -/
  | take {k : Kind} (count : Nat) : Blueprint ν k
  /-- Pass over a number of symbols when the reply is asked for. -/
  | takeLater {k : Kind} (count : Nat) : Blueprint ν k
  /-- The next symbol. -/
  | next {k : Kind} : Blueprint ν k
  /-- Pass over the next symbol. -/
  | nextBlind {k : Kind} : Blueprint ν k
  /-- Apply a function a number of times. -/
  | mapTimes {k : Kind} (count : Nat) (f : Value.Operation) (p : Blueprint ν k) : Blueprint ν k
  /-- The same again a number of times, grouped to the left. -/
  | thenLeft {k : Kind} (count : Nat) (p : Blueprint ν k) : Blueprint ν k
  /-- The same again a number of times, grouped to the right. -/
  | thenRight {k : Kind} (count : Nat) (p : Blueprint ν k) : Blueprint ν k
  /-- One character. -/
  | chr (c : Char) : Blueprint ν .char
  /-- An alphabetic character. -/
  | letter : Blueprint ν .char
  /-- A decimal digit. -/
  | digit : Blueprint ν .char
  /-- An alphabetic character or a decimal digit. -/
  | alphaNum : Blueprint ν .char
  /-- A blank. -/
  | space : Blueprint ν .char
  /-- A character of a string. -/
  | oneOf (chars : String) : Blueprint ν .char
  /-- A character that is not in a string. -/
  | noneOf (chars : String) : Blueprint ν .char
  /-- A string. -/
  | literal (text : String) : Blueprint ν .char
  /-- An integer. -/
  | integer : Blueprint ν .char
  /-- A decimal number. -/
  | decimal : Blueprint ν .char
  /-- Any number of blanks. -/
  | blanks : Blueprint ν .char
  /-- A parser and the blanks behind it. -/
  | lexeme (p : Blueprint ν .char) : Blueprint ν .char
  /-- Text that matches a pattern. -/
  | regex (pattern : Regex.Pattern Regex.engine) : Blueprint ν .char

/-- A row of described parsers. -/
inductive Blueprints (ν : Type) : Kind → Type where
  /-- No parser. -/
  | nil {k : Kind} : Blueprints ν k
  /-- One parser more. -/
  | cons {k : Kind} (p : Blueprint ν k) (ps : Blueprints ν k) : Blueprints ν k

/-- How a described parser goes on from a value. -/
inductive Next (ν : Type) : Kind → Type where
  /-- Succeed with the value. -/
  | pure {k : Kind} : Next ν k
  /-- Read the symbol that the value stands for once more. -/
  | again {k : Kind} : Next ν k
  /-- Fail on a digit; succeed with the upper-case form of any other character. -/
  | rejectDigit {k : Kind} : Next ν k
  /-- Go on with a parser, whatever the value. -/
  | run {k : Kind} (p : Blueprint ν k) : Next ν k
  /-- The pair of the value and that of a parser. -/
  | pair {k : Kind} (p : Blueprint ν k) : Next ν k
  /-- Succeed with a function of the value. -/
  | map {k : Kind} (f : Value.Operation) : Next ν k
  /-- A parser as many times as the value says. -/
  | count {k : Kind} (p : Blueprint ν k) : Next ν k
  /-- The text inside the value, read once more. -/
  | literal {k : Kind} : Next ν k
  /-- The character with the hexadecimal code inside the value. -/
  | hexChar {k : Kind} : Next ν k
  /-- The parser that belongs to the value. -/
  | case {k : Kind} (branches : Branches ν k) (default : Blueprint ν k) : Next ν k

/-- Values with the parsers that belong to them. -/
inductive Branches (ν : Type) : Kind → Type where
  /-- No value. -/
  | nil {k : Kind} : Branches ν k
  /-- One value more. -/
  | cons {k : Kind} (v : Value) (p : Blueprint ν k) (rest : Branches ν k) : Branches ν k

end

/-! ## References -/

section Resolve

variable {ν μ : Type} {m : Type → Type} [Monad m]

mutual

/-- Put a blueprint in the place of each reference. -/
def Blueprint.resolve {k : Kind} (find : ν → m (Blueprint μ k)) :
    Blueprint ν k → m (Blueprint μ k)
  | .retn v => return .retn v
  | .retnWith v => return .retnWith v
  | .fail => return .fail
  | .eof => return .eof
  | .satisfy p => return .satisfy p
  | .bind p next => return .bind (← p.resolve find) (← next.resolve find)
  | .map f p => return .map f (← p.resolve find)
  | .seqRight p q => return .seqRight (← p.resolve find) (← q.resolve find)
  | .seqLeft p q => return .seqLeft (← p.resolve find) (← q.resolve find)
  | .both p q => return .both (← p.resolve find) (← q.resolve find)
  | .between o c p => return .between (← o.resolve find) (← c.resolve find) (← p.resolve find)
  | .orElse p q => return .orElse (← p.resolve find) (← q.resolve find)
  | .choice ps => return .choice (← ps.resolve find)
  | .attempt p => return .attempt (← p.resolve find)
  | .label name p => return .label name (← p.resolve find)
  | .optional p => return .optional (← p.resolve find)
  | .option v p => return .option v (← p.resolve find)
  | .many p => return .many (← p.resolve find)
  | .many1 p => return .many1 (← p.resolve find)
  | .skipMany p => return .skipMany (← p.resolve find)
  | .sepBy p sep => return .sepBy (← p.resolve find) (← sep.resolve find)
  | .sepBy1 p sep => return .sepBy1 (← p.resolve find) (← sep.resolve find)
  | .delay p => return .delay (← p.resolve find)
  | .ref r => find r
  | .take count => return .take count
  | .takeLater count => return .takeLater count
  | .next => return .next
  | .nextBlind => return .nextBlind
  | .mapTimes count f p => return .mapTimes count f (← p.resolve find)
  | .thenLeft count p => return .thenLeft count (← p.resolve find)
  | .thenRight count p => return .thenRight count (← p.resolve find)
  | .chr c => return .chr c
  | .letter => return .letter
  | .digit => return .digit
  | .alphaNum => return .alphaNum
  | .space => return .space
  | .oneOf chars => return .oneOf chars
  | .noneOf chars => return .noneOf chars
  | .literal text => return .literal text
  | .integer => return .integer
  | .decimal => return .decimal
  | .blanks => return .blanks
  | .lexeme p => return .lexeme (← p.resolve find)
  | .regex pattern => return .regex pattern

@[inherit_doc Blueprint.resolve]
def Blueprints.resolve {k : Kind} (find : ν → m (Blueprint μ k)) :
    Blueprints ν k → m (Blueprints μ k)
  | .nil => return .nil
  | .cons p ps => return .cons (← p.resolve find) (← ps.resolve find)

@[inherit_doc Blueprint.resolve]
def Next.resolve {k : Kind} (find : ν → m (Blueprint μ k)) : Next ν k → m (Next μ k)
  | .pure => return .pure
  | .again => return .again
  | .rejectDigit => return .rejectDigit
  | .run p => return .run (← p.resolve find)
  | .pair p => return .pair (← p.resolve find)
  | .map f => return .map f
  | .count p => return .count (← p.resolve find)
  | .literal => return .literal
  | .hexChar => return .hexChar
  | .case branches default => return .case (← branches.resolve find) (← default.resolve find)

@[inherit_doc Blueprint.resolve]
def Branches.resolve {k : Kind} (find : ν → m (Blueprint μ k)) :
    Branches ν k → m (Branches μ k)
  | .nil => return .nil
  | .cons v p rest => return .cons v (← p.resolve find) (← rest.resolve find)

end

end Resolve

/-- The references of a blueprint, the last one first. -/
def Blueprint.refs {ν : Type} {k : Kind} (p : Blueprint ν k) : List ν :=
  let note (r : ν) : StateM (List ν) (Blueprint ν k) := do
    modify (r :: ·)
    return .ref r
  ((p.resolve note).run []).2

end ParserKit
