import ParserKit.Regex.Syntax

/-!
# Matching

An expression is turned into a program for a machine that follows all its ways through a text
at the same time. The ways are kept in order of preference, and no two of them stand at the
same instruction, so the time is bounded by the length of the text times the length of the
program. A way that reaches the end of the program is a match, and ends all ways that come
after it.

The match that is found is the leftmost one, and of those that start there the preferred one.

## Main definitions

* `Inst`, `Program`: instructions, and the program of an expression
* `Program.search`: where the match lies
-/

namespace ParserKit.Regex

/-- An instruction; the numbers are places in the program. -/
inductive Inst where
  /-- Read a character of a set. -/
  | read (s : CharSet) (next : Nat)
  /-- Go on if a condition holds. -/
  | look (l : Look) (next : Nat)
  /-- Go on in two places, preferring the first. -/
  | split (first second : Nat)
  /-- The end of a match. -/
  | accept

/-- The code built so far. -/
abbrev Code := Array Inst

namespace Code

/-- Put an instruction behind the code; its place is the result. -/
def emit (code : Code) (inst : Inst) : Nat × Code := (code.size, code.push inst)

/-- A branch between another round and the end of a repetition. -/
def branch (greedy : Bool) (again next : Nat) : Inst :=
  if greedy then .split again next else .split next again

/-- Code that does the same `count` times before `next`. -/
def iterate (body : Nat → Code → Nat × Code) : Nat → Nat → Code → Nat × Code
  | 0, next, code => (next, code)
  | count + 1, next, code =>
    let (entry, code) := body next code
    iterate body count entry code

/-- Code that does the same up to `count` times before `next`, one inside the other. -/
def upTo (body : Nat → Code → Nat × Code) (greedy : Bool) (next : Nat) :
    Nat → Code → Nat × Code
  | 0, code => (next, code)
  | count + 1, code =>
    let (inner, code) := upTo body greedy next count code
    let (entry, code) := body inner code
    code.emit (branch greedy entry next)

/-- Code that does the same once and then as often as one likes. -/
def loop (body : Nat → Code → Nat × Code) (greedy : Bool) (next : Nat) (code : Code) :
    Nat × Code :=
  let (turn, code) := code.emit (.split next next)
  let (entry, code) := body turn code
  (entry, code.setIfInBounds turn (branch greedy entry next))

end Code

/-- Code for an expression before the code at `next`; its first instruction is the result. A
repetition of something that can be empty is entered through a branch of its own, so that an
empty round does not hide the rounds that read something. -/
def Expr.compile : Expr → Nat → Code → Nat × Code
  | .empty, next, code => (next, code)
  | .set s, next, code => code.emit (.read s next)
  | .look l, next, code => code.emit (.look l next)
  | .concat a b, next, code =>
    let (second, code) := b.compile next code
    a.compile second code
  | .alternate a b, next, code =>
    let (second, code) := b.compile next code
    let (first, code) := a.compile next code
    code.emit (.split first second)
  | .rep e min max greedy, next, code =>
    if e.isWidthless && min > 1 then e.compile next code
    else match min, max with
      | 0, none =>
        let (entry, code) := Code.loop e.compile greedy next code
        code.emit (Code.branch greedy entry next)
      | min + 1, none =>
        let (entry, code) := Code.loop e.compile greedy next code
        Code.iterate e.compile min entry code
      | min, some max =>
        let extra := if e.isWidthless then Nat.min 1 (max - min) else max - min
        let (entry, code) := Code.upTo e.compile greedy next extra code
        Code.iterate e.compile min entry code

/-- A program with its first instruction. -/
structure Program where
  /-- The instructions. -/
  code : Code
  /-- The first one. -/
  entry : Nat
  /-- Whether matches are at the start of the text only. -/
  anchored : Bool

/-- The program of an expression. -/
def Program.ofExpr (e : Expr) : Program :=
  let (entry, code) := e.compile 0 #[.accept]
  ⟨code, entry, e.isAnchored⟩

/-- A way through the text: the instruction where it stands, and where in the text it began. -/
structure Thread where
  /-- The instruction. -/
  inst : Nat
  /-- The start of the match. -/
  start : Nat

namespace Program

/-- Follow the instructions that read nothing. The threads of the result stand at instructions
that read a character or accept, the preferred ones last; `seen` marks the instructions that
another thread has reached before. -/
def settle (p : Program) (ctx : Context) :
    Nat → List Thread → Array Bool → List Thread → List Thread
  | 0, _, _, settled => settled
  | _ + 1, [], _, settled => settled
  | bound + 1, t :: todo, seen, settled =>
    if seen.getD t.inst true then p.settle ctx bound todo seen settled
    else
      let seen := seen.setIfInBounds t.inst true
      match p.code[t.inst]? with
      | some (.split a b) =>
        p.settle ctx bound (⟨a, t.start⟩ :: ⟨b, t.start⟩ :: todo) seen settled
      | some (.look l a) =>
        if l.holds ctx then p.settle ctx bound (⟨a, t.start⟩ :: todo) seen settled
        else p.settle ctx bound todo seen settled
      | some (.read ..) => p.settle ctx bound todo seen (t :: settled)
      | some .accept => p.settle ctx bound todo seen (t :: settled)
      | none => p.settle ctx bound todo seen settled

/-- Move the threads over a character. A thread that accepts gives the match so far and ends the
threads behind it. -/
def move (p : Program) (c : Option Char) (position : Nat) (found : Option (Nat × Nat)) :
    List Thread → List Thread × Option (Nat × Nat)
  | [] => ([], found)
  | t :: ts =>
    match p.code[t.inst]?, c with
    | some .accept, _ => ([], some (t.start, position))
    | some (.read s next), some c =>
      let (moved, found) := p.move (some c) position found ts
      if s.contains c then (⟨next, t.start⟩ :: moved, found) else (moved, found)
    | _, _ => p.move c position found ts

/-- The threads at a place, with a new one if there is no match yet. -/
def threadsAt (p : Program) (before behind : Option Char) (position : Nat)
    (threads : List Thread) (found : Option (Nat × Nat)) : List Thread :=
  let fresh :=
    if found.isNone && (position == 0 || !p.anchored) then [⟨p.entry, position⟩] else []
  let todo := threads ++ fresh
  (p.settle ⟨before, behind⟩ (todo.length + 2 * p.code.size + 1) todo
    (Array.replicate p.code.size false) []).reverse

/-- Search from a place on, with the threads that come from before it. A new thread begins at
every place until a match is found. -/
def searchFrom (p : Program) (before : Option Char) (position : Nat) (threads : List Thread)
    (found : Option (Nat × Nat)) : List Char → Option (Nat × Nat)
  | [] => (p.move none position found (p.threadsAt before none position threads found)).2
  | c :: rest =>
    let (moved, found) :=
      p.move (some c) position found (p.threadsAt before (some c) position threads found)
    if moved.isEmpty && (found.isSome || p.anchored) then found
    else p.searchFrom (some c) (position + 1) moved found rest

/-- The start and the end of the match in a text. -/
def search (p : Program) (text : List Char) : Option (Nat × Nat) :=
  p.searchFrom none 0 [] none text

end Program

end ParserKit.Regex
