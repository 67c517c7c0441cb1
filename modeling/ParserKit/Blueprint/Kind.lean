import ParserKit.Value.Basic

/-!
# Kinds of symbols

Described parsers read characters, bytes or tokens. A kind names the type of the symbols, and
with it go the ways to turn a symbol into a value and back and to test it.

## Main definitions

* `Kind`, `Kind.Carrier`: the kinds and their types of symbols
* `Kind.toValue`, `Kind.ofValue?`: symbols as values
* `Predicate`, `Predicate.test`: described tests of a symbol
-/

namespace ParserKit

/-- The kinds of symbols. -/
inductive Kind where
  /-- Characters. -/
  | char
  /-- Bytes. -/
  | byte
  /-- Tokens. -/
  | token
deriving DecidableEq

/-- The symbols of a kind. -/
abbrev Kind.Carrier : Kind → Type
  | .char => Char
  | .byte => UInt8
  | .token => Token

namespace Kind

instance instSymbolCarrier : (k : Kind) → Symbol k.Carrier
  | .char => inferInstanceAs (Symbol Char)
  | .byte => inferInstanceAs (Symbol UInt8)
  | .token => inferInstanceAs (Symbol Token)

instance instDecidableEqCarrier : (k : Kind) → DecidableEq k.Carrier
  | .char => inferInstanceAs (DecidableEq Char)
  | .byte => inferInstanceAs (DecidableEq UInt8)
  | .token => inferInstanceAs (DecidableEq Token)

/-- A symbol as a value. -/
def toValue : (k : Kind) → k.Carrier → Value
  | .char, c => .char c
  | .byte, b => .int (Int64.ofNat b.toNat)
  | .token, t => .token t

/-- The symbol that a value stands for. -/
def ofValue? : (k : Kind) → Value → Option k.Carrier
  | .char, .char c => some c
  | .byte, .int n =>
    if 0 ≤ n.toInt ∧ n.toInt ≤ 255 then some (UInt8.ofNat n.toInt.toNat) else none
  | .token, .token t => some t
  | _, _ => none

/-- Whether a symbol lies between two others. Of the tokens only numbers have an order. -/
def inRange : (k : Kind) → (low high a : k.Carrier) → Bool
  | .char, low, high, c => decide (low ≤ c) && decide (c ≤ high)
  | .byte, low, high, b => decide (low ≤ b) && decide (b ≤ high)
  | .token, .num low, .num high, .num n => decide (low ≤ n) && decide (n ≤ high)
  | .token, _, _, _ => false

end Kind

/-- The named classes of symbols. -/
inductive SymbolClass where
  /-- The digits 0 to 9. -/
  | digit
  /-- The hexadecimal digits. -/
  | hex
  /-- The letters A to Z. -/
  | upper
  /-- The letters a to z. -/
  | lower
  /-- Numbers. -/
  | num
  /-- Names. -/
  | ident
  /-- Marks. -/
  | punct
deriving DecidableEq

namespace SymbolClass

/-- Whether a code point of the ASCII range belongs to a class. -/
def hasPoint : SymbolClass → Nat → Bool
  | .digit, n => decide (0x30 ≤ n) && decide (n ≤ 0x39)
  | .upper, n => decide (0x41 ≤ n) && decide (n ≤ 0x5a)
  | .lower, n => decide (0x61 ≤ n) && decide (n ≤ 0x7a)
  | .hex, n => (decide (0x30 ≤ n) && decide (n ≤ 0x39)) ||
      (decide (0x41 ≤ n) && decide (n ≤ 0x46)) || (decide (0x61 ≤ n) && decide (n ≤ 0x66))
  | _, _ => false

/-- Whether a symbol belongs to a class. -/
def contains (s : SymbolClass) : (k : Kind) → k.Carrier → Bool
  | .char, c => s.hasPoint c.toNat
  | .byte, b => s.hasPoint b.toNat
  | .token, .num _ => s = .num
  | .token, .ident _ => s = .ident
  | .token, .punct _ => s = .punct

end SymbolClass

/-- A described test of a symbol. -/
inductive Predicate (k : Kind) where
  /-- Every symbol. -/
  | any
  /-- No symbol. -/
  | never
  /-- One symbol. -/
  | eq (a : k.Carrier)
  /-- The symbols between two others. -/
  | range (low high : k.Carrier)
  /-- The symbols of a class. -/
  | inClass (s : SymbolClass)
  /-- The symbols that fail a test. -/
  | not (p : Predicate k)

/-- Whether a symbol passes a test. -/
def Predicate.test {k : Kind} : Predicate k → k.Carrier → Bool
  | .any, _ => true
  | .never, _ => false
  | .eq b, a => decide (a = b)
  | .range low high, a => k.inRange low high a
  | .inClass s, a => s.contains k a
  | .not p, a => !p.test a

end ParserKit
