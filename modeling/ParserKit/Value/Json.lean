import ParserKit.Value.Basic

/-!
# Values as compact JSON

Every value has a form in JSON, written without blanks and with the keys of each object in
order. Doubles are written by their bits, since a decimal form would not tell all of them apart.
-/

namespace ParserKit.Value

/-- The last `width` hexadecimal digits of a number, in lower case. -/
def hexPadded (width n : Nat) : String :=
  let digits := Nat.toDigits 16 n
  String.ofList (List.replicate (width - digits.length) '0' ++ digits)

/-- How a character is written in a JSON string. -/
def escapeJson (c : Char) : String :=
  if c == '"' then "\\\""
  else if c == '\\' then "\\\\"
  else if c == '\x08' then "\\b"
  else if c == '\x0c' then "\\f"
  else if c == '\n' then "\\n"
  else if c == '\r' then "\\r"
  else if c == '\t' then "\\t"
  else if c < ' ' then "\\u" ++ hexPadded 4 c.toNat
  else c.toString

/-- A string in JSON. -/
def jsonString (s : String) : String :=
  "\"" ++ String.join (s.toList.map escapeJson) ++ "\""

/-- An object with one member. -/
def jsonField (key body : String) : String := "\x7b\"" ++ key ++ "\":" ++ body ++ "\x7d"

/-- The bits of a double in sixteen hexadecimal digits; all NaNs are written alike. -/
def floatBits (x : Float) : String :=
  if x.isNaN then "nan" else hexPadded 16 x.toBits.toNat

/-- A token in JSON. -/
def jsonToken : Token → String
  | .num n => jsonField "num" (toString n.toInt)
  | .ident s => jsonField "id" (jsonString s)
  | .punct c => jsonField "p" (jsonString c.toString)

mutual

/-- A value in JSON. -/
def toJson : Value → String
  | .unit => "null"
  | .bool true => "true"
  | .bool false => "false"
  | .int n => toString n.toInt
  | .float x => jsonField "f" (jsonString (floatBits x))
  | .char c => jsonField "c" (jsonString c.toString)
  | .text s => jsonString s
  | .token t => jsonField "t" (jsonToken t)
  | .list items => "[" ++ ",".intercalate (toJsonList items) ++ "]"
  | .pair a b => jsonField "pair" ("[" ++ toJson a ++ "," ++ toJson b ++ "]")
  | .none => jsonField "none" "true"
  | .some v => jsonField "some" (toJson v)

/-- The values of a list in JSON. -/
def toJsonList : List Value → List String
  | [] => []
  | v :: vs => toJson v :: toJsonList vs

end

end ParserKit.Value
