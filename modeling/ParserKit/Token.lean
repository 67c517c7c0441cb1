import ParserKit.Message

/-!
# Tokens

The symbols of inputs that have been split into words already: numbers, names and single marks.
-/

namespace ParserKit

/-- A number, a name or a mark. -/
inductive Token where
  /-- A number. -/
  | num (value : Int64)
  /-- A name. -/
  | ident (name : String)
  /-- A mark. -/
  | punct (mark : Char)
deriving DecidableEq

instance : Symbol Token where
  quoted
    | .num value => s!"Num({value.toInt})"
    | .ident name => "Ident(" ++ Text.quoteString name ++ ")"
    | .punct mark => "Punct(" ++ Text.quoteChar mark ++ ")"

end ParserKit
