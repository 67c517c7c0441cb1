import ParserKit.Slots.Rules

/-!
# Running described parsers

A book of rules gives names to slots. A blueprint over the names is run on an input, and what is
seen of the run depends on how it is entered: the tag alone, the reply, the value.

## Main definitions

* `RuleBook`: rules by name
* `Entry`, `Finding`: ways to run a parser, and what is found
* `Parser.enter`: run a parser in one of these ways
-/

namespace ParserKit

/-- A reference to a rule by its name. -/
inductive NamedRef where
  /-- A reference that does not keep the rule. -/
  | weak (name : String)
  /-- A reference that keeps the rule. -/
  | owning (name : String)
  /-- The definition of the rule, built anew at each use. -/
  | inline (name : String)
deriving DecidableEq

/-- Rules by name: the slot of a name is its place in `names`. -/
structure RuleBook (k : Kind) where
  /-- The names, each once. -/
  names : List String
  /-- The slots. -/
  slots : Slots k

namespace RuleBook

variable {k : Kind}

/-- A book with a slot for each name; a name that is repeated has one slot. -/
def ofNames (names : List String) : RuleBook k :=
  let names := names.eraseDups
  ⟨names, names.foldl (fun s _ => s.make.2) {}⟩

/-- The slot of a name. -/
def slot? (b : RuleBook k) (name : String) : Option Nat := b.names.idxOf? name

/-- The slot of a reference. -/
def resolveRef? (b : RuleBook k) : NamedRef → Option SlotRef
  | .weak name => (b.slot? name).map .weak
  | .owning name => (b.slot? name).map .owning
  | .inline name => (b.slot? name).map .inline

/-- A blueprint with slots in the place of names, if the book has them all. -/
def resolve? (b : RuleBook k) (p : Blueprint NamedRef k) : Option (Blueprint SlotRef k) :=
  p.resolve fun r => (b.resolveRef? r).map .ref

/-- Define a rule. -/
def define (b : RuleBook k) (slot : Nat) (p : Blueprint SlotRef k) : Except Fault (RuleBook k) :=
  return { b with slots := ← b.slots.assign slot p }

/-- Drop all rules but those that `p` keeps. -/
def keepOnly (b : RuleBook k) (p : Blueprint SlotRef k) : RuleBook k :=
  { b with slots := b.slots.sweep (b.slots.keptBy p) }

end RuleBook

/-! ## Entries -/

/-- The ways to enter a parser. -/
inductive Entry where
  /-- The outcome, its tag before its reply. -/
  | outcome
  /-- The reply. -/
  | reply
  /-- The value. -/
  | value
  /-- The value, from the beginning of the input. -/
  | text
  /-- The tag alone. -/
  | tag
  /-- Two runs from the same place. -/
  | twice
deriving DecidableEq

/-- What is seen of an outcome: its tag first, and then its reply. -/
structure Sighting (σ α : Type) where
  /-- Whether input was consumed. -/
  consumed : Bool
  /-- Whether it failed without consumption. -/
  failedEmpty : Bool
  /-- The reply, or why there is none. -/
  reply : Except Halt (Reply σ α)

/-- Look at an outcome. -/
def Outcome.sight {σ α : Type} (o : Outcome Id σ α) : Sighting σ α where
  consumed := o.isConsumed
  failedEmpty := o.failedEmpty
  reply := (o.lookReply : Except Halt (Reply σ α) × Outcome Id σ α).1

/-- What an entry finds. -/
inductive Finding (σ α : Type) where
  /-- An outcome. -/
  | outcome (seen : Sighting σ α)
  /-- A reply. -/
  | reply (reply : Reply σ α)
  /-- A value, or a message. -/
  | value (result : Except (Message σ) α)
  /-- A tag. -/
  | tag (consumed : Bool)
  /-- Whether two runs agree, and the first of them. -/
  | twice (agree : Bool) (first : Sighting σ α)

namespace Parser

variable {σ α : Type}

/-- Run a parser twice and compare: the tags, and the replies. -/
def agree [BEq α] [DecidableEq σ] (p : Parser σ α) (c : Cursor σ) : Exec (Finding σ α) := do
  let first ← p.run c
  let second ← p.run c
  if first.isConsumed == second.isConsumed then
    let r ← first.takeReply
    let s ← second.takeReply
    return .twice (r.same s) first.sight
  else return .twice false first.sight

/-- Enter a parser in the given way. -/
def enter [BEq α] [DecidableEq σ] (p : Parser σ α) (c : Cursor σ) :
    Entry → Exec (Finding σ α)
  | .outcome => return .outcome (← p.run c).sight
  | .reply => return .reply (← p.parse c)
  | .value => return .value (← p.parseValue c)
  | .text => return .value (← p.parseValue c)
  | .tag => return .tag (← p.run c).isConsumed
  | .twice => p.agree c

/-- Enter a parser on an input, `offset` symbols behind its beginning. -/
def enterAt [BEq α] [DecidableEq σ] (p : Parser σ α) (entry : Entry) (id offset : Nat)
    (input : Array σ) : Exec (Finding σ α) := do
  let c := Cursor.start id input
  let c ← if entry = .text then pure c else Run.ofExcept (c.advanceBy offset)
  p.enter c entry

end Parser

/-- Run a blueprint over a book of rules on each of some inputs. -/
def RuleBook.enterAll {k : Kind} (b : RuleBook k) (p : Blueprint SlotRef k) (entry : Entry)
    (offset : Nat) (inputs : List (Array k.Carrier)) :
    List (Except Halt (Finding k.Carrier Value)) :=
  inputs.mapIdx fun id input => ((b.slots.parser p).enterAt entry id offset input).run

end ParserKit
