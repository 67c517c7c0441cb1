import ParserKit.Token

/-!
# Dynamic values

The values of parsers that are put together from a description: one type for all of them.

## Main definitions

* `Value`: the values
* `Value.beq`: structural equality, where floating-point numbers are compared as numbers
* `Value.chars`, `Value.concat`: all text inside a value
-/

namespace ParserKit

/-- A value of a described parser. -/
inductive Value where
  /-- The value without content. -/
  | unit
  /-- A truth value. -/
  | bool (b : Bool)
  /-- A signed 64-bit word. -/
  | int (n : Int64)
  /-- A double. -/
  | float (x : Float)
  /-- A character. -/
  | char (c : Char)
  /-- A string. -/
  | text (s : String)
  /-- A token. -/
  | token (t : Token)
  /-- A list. -/
  | list (items : List Value)
  /-- A pair. -/
  | pair (first second : Value)
  /-- An absent value. -/
  | none
  /-- A present value. -/
  | some (v : Value)

namespace Value

mutual

/-- Equality of values. Doubles are equal as numbers: NaN differs from itself. -/
def beq : Value → Value → Bool
  | .unit, .unit => true
  | .bool a, .bool b => a == b
  | .int a, .int b => a == b
  | .float a, .float b => a == b
  | .char a, .char b => a == b
  | .text a, .text b => a == b
  | .token a, .token b => a == b
  | .list as, .list bs => beqList as bs
  | .pair a b, .pair c d => beq a c && beq b d
  | .none, .none => true
  | .some a, .some b => beq a b
  | _, _ => false

/-- Equality of lists of values. -/
def beqList : List Value → List Value → Bool
  | [], [] => true
  | a :: as, b :: bs => beq a b && beqList as bs
  | _, _ => false

end

instance : BEq Value := ⟨beq⟩

mutual

/-- The characters of a value and of the strings inside it, in order. -/
def chars : Value → List Char
  | .char c => [c]
  | .text s => s.toList
  | .list items => charsList items
  | .pair a b => chars a ++ chars b
  | .some v => chars v
  | _ => []

/-- The characters of the values of a list, in order. -/
def charsList : List Value → List Char
  | [] => []
  | v :: vs => chars v ++ charsList vs

end

/-- All text inside a value. -/
def concat (v : Value) : String := String.ofList v.chars

end Value

end ParserKit
