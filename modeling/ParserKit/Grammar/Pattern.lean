import ParserKit.Grammar.Basic

/-!
# Patterns as grammars

Regular expressions are the business of an engine, which says what patterns there are and where a
match lies. All that is asked of it is that a match is a stretch of the text that is searched.

A pattern is searched for in the text from the cursor on, as if that were the whole text. The
pattern is put between `^(?:` and `)` as it is written, so that it has to match at the cursor;
a pattern that closes this bracket itself gets out of it, and then a match may be found further
on. The cursor moves by the length of the match in either case.

## Main definitions

* `Regex.Match`: a stretch of a text
* `Regex.Engine`: an engine for regular expressions
* `Regex.Pattern`, `Regex.Pattern.compile?`: patterns that keep the rules of an engine
* `Grammar.regex`: a pattern as a grammar
-/

namespace ParserKit

namespace Regex

/-- A match in a text. -/
structure Match (text : List Char) where
  /-- What lies before the match. -/
  before : List Char
  /-- What is matched. -/
  found : List Char
  /-- What lies behind the match. -/
  behind : List Char
  /-- The three make up the text. -/
  split : before ++ found ++ behind = text

theorem Match.found_isInfix {text : List Char} (m : Match text) : m.found <:+: text :=
  ⟨m.before, m.behind, m.split⟩

/-- An engine for regular expressions. -/
structure Engine where
  /-- Patterns ready for use. -/
  Program : Type
  /-- The program of a pattern, if it keeps the rules. -/
  compile? : String → Option Program
  /-- The match of a program in a text. -/
  search : Program → (text : List Char) → Option (Match text)

/-- The text that is matched for a pattern: the pattern in a group at the start of the text. -/
def anchoredText (text : String) : String := "^(?:" ++ text ++ ")"

/-- A pattern that keeps the rules of an engine. -/
structure Pattern (engine : Engine) where
  /-- The text of the pattern. -/
  text : String
  /-- Its program. -/
  program : engine.Program
  /-- The program is that of the pattern in its group. -/
  compiled : engine.compile? (anchoredText text) = some program

namespace Pattern

variable {engine : Engine}

/-- The pattern of a text, if it keeps the rules. -/
def compile? (engine : Engine) (text : String) : Option (Pattern engine) :=
  match h : engine.compile? (anchoredText text) with
  | some program => some ⟨text, program, h⟩
  | none => none

/-- What a pattern finds in a text. -/
def find (p : Pattern engine) (text : List Char) : Option (List Char) :=
  (engine.search p.program text).map (·.found)

theorem find_isInfix {p : Pattern engine} {text found : List Char}
    (h : p.find text = some found) : found <:+: text := by
  obtain ⟨m, -, rfl⟩ := Option.map_eq_some_iff.1 h
  exact m.found_isInfix

/-- The search for a pattern. Its label is the pattern between slashes. -/
def matcher (p : Pattern engine) : Matcher Char where
  label := "/" ++ p.text ++ "/"
  find := p.find
  find_isInfix := find_isInfix

end Pattern

end Regex

/-- Text that matches a pattern. -/
def Grammar.regex {ρ : Type → Type} {engine : Regex.Engine} (p : Regex.Pattern engine) :
    Grammar Char ρ String :=
  (Grammar.scan p.matcher).map String.ofList

end ParserKit
