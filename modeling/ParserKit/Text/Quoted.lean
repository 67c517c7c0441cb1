import ParserKit.Text.Category
import ParserKit.Text.Extender

/-!
# Quoted text

A character or a string as it is shown inside a message: between quotes, with everything that
could not be read there written as an escape. A character stands between single quotes and a
string between double ones; only the quote that encloses it is escaped.

## Main definitions

* `isPrintable`: characters that are shown as they are
* `quoteChar`, `quoteString`: the quoted forms
-/

namespace ParserKit.Text

/-- The categories of characters that leave no mark of their own. -/
def unseen : List Category :=
  [.control, .format, .privateUse, .unassigned, .spaceSeparator, .lineSeparator,
    .paragraphSeparator]

/-- Whether a character leaves a mark of its own; the space U+0020 counts as one. -/
def isPrintable (c : Char) : Bool := c == ' ' || !unseen.any (·.contains c)

/-- A code point in lower-case hexadecimal digits, without leading zeros. -/
def hexDigits (n : Nat) : String := String.ofList (Nat.toDigits 16 n)

/-- The escape of a character by its code point. -/
def escapePoint (c : Char) : String := "\\u\x7b" ++ hexDigits c.toNat ++ "\x7d"

/-- How a character is written between two `quote`s. -/
def escape (quote c : Char) : String :=
  if c == '\x00' then "\\0"
  else if c == '\t' then "\\t"
  else if c == '\r' then "\\r"
  else if c == '\n' then "\\n"
  else if c == '\\' then "\\\\"
  else if c == quote then String.ofList ['\\', c]
  else if isExtender c || !isPrintable c then escapePoint c
  else c.toString

/-- A character between single quotes. -/
def quoteChar (c : Char) : String := "'" ++ escape '\'' c ++ "'"

/-- A string between double quotes. -/
def quoteString (s : String) : String :=
  "\"" ++ String.join (s.toList.map (escape '"')) ++ "\""

end ParserKit.Text
