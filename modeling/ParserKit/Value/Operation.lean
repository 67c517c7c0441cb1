import ParserKit.Value.Basic

/-!
# Operations on values

The functions that a described parser can apply to its value. Each applies to values of some
shape and returns any other value unchanged. Arithmetic on words wraps around.

## Main definitions

* `Value.Operation`: the functions
* `Value.Operation.apply`: what they do
-/

namespace ParserKit.Value

/-- A function on values. -/
inductive Operation where
  /-- Always the same value. -/
  | const (v : Value)
  /-- The value behind a tag, as a pair. -/
  | tag (name : String)
  /-- The value as a present one. -/
  | present
  /-- The length of a list, or of a string in characters. -/
  | length
  /-- The next word. -/
  | succ
  /-- The negative of a number. -/
  | neg
  /-- The sum of the words in a list. -/
  | sum
  /-- All text inside a value. -/
  | concat
  /-- The upper-case form of a character from a to z. -/
  | upper
  /-- The first of a pair. -/
  | first
  /-- The second of a pair. -/
  | second
  /-- A double, an operator and a double: the result of the operator. -/
  | arith
  /-- A word and a list of operators with words: the results, from the left. -/
  | calc
  /-- A list of pairs with each key once: at its first place, with its last value. -/
  | object

/-- The upper-case form of the letters a to z. -/
def upperAscii (c : Char) : Char :=
  if 'a' ≤ c ∧ c ≤ 'z' then Char.ofNat (c.toNat - 32) else c

/-- The words of a list, added up. -/
def sumWords (items : List Value) : Int64 :=
  items.foldl (fun acc v => match v with
    | .int n => acc + n
    | _ => acc) 0

/-- An operator on doubles; what is not `+`, `-` or `*` divides. -/
def floatOperator (op : Char) (a b : Float) : Float :=
  if op == '+' then a + b else if op == '-' then a - b else if op == '*' then a * b else a / b

/-- An operator on words; what is not `+` or `-` multiplies. -/
def wordOperator (op : Char) (a b : Int64) : Int64 :=
  if op == '+' then a + b else if op == '-' then a - b else a * b

/-- Apply operators with their right-hand sides one after the other. -/
def calcFrom (start : Int64) (items : List Value) : Int64 :=
  items.foldl (fun acc v => match v with
    | .pair (.char op) (.int n) => wordOperator op acc n
    | _ => acc) start

/-- Set the value of a key: in its place if the key is there, at the end if not. -/
def setMember (key value : Value) : List (Value × Value) → List (Value × Value)
  | [] => [(key, value)]
  | (k, v) :: rest => if k == key then (k, value) :: rest else (k, v) :: setMember key value rest

/-- The pairs of a list with each key once. -/
def members (items : List Value) : List (Value × Value) :=
  items.foldl (fun acc v => match v with
    | .pair key value => setMember key value acc
    | _ => acc) []

namespace Operation

/-- The result of a function. -/
def apply : Operation → Value → Value
  | .const v, _ => v
  | .tag name, v => .pair (.text name) v
  | .present, v => .some v
  | .length, .list items => .int (Int64.ofNat items.length)
  | .length, .text s => .int (Int64.ofNat s.length)
  | .succ, .int n => .int (n + 1)
  | .neg, .int n => .int (-n)
  | .neg, .float x => .float (-x)
  | .sum, .list items => .int (sumWords items)
  | .concat, v => .text v.concat
  | .upper, .char c => .char (upperAscii c)
  | .first, .pair a _ => a
  | .second, .pair _ b => b
  | .arith, .pair (.pair (.float a) (.char op)) (.float b) => .float (floatOperator op a b)
  | .calc, .pair (.int n) (.list items) => .int (calcFrom n items)
  | .object, .list items =>
    .list ((members items).map fun (key, value) => .pair key value)
  | _, v => v

end Operation

end ParserKit.Value
