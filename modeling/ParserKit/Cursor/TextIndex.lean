import ParserKit.Cursor.Basic

/-!
# Text from a cursor on

The remaining characters as a string. The input is written out once, and a table tells at which
byte each character begins; the text from a cursor on is a slice of it. The first cursor that is
asked for its text has this table made, and from then on it serves every cursor of the same input.

## Main definitions

* `TextIndex`, `TextIndex.build`: a text with the byte offsets of its characters
* `TextIndex.suffix?`: the text from a character on
* `Cursor.remainingText?`: the text from a cursor on
* `TextIndexes`, `Cursor.readText`: the indexes that are kept, and the text from a cursor on with
  the help of them
-/

namespace ParserKit

/-- A text with the byte offset of each of its characters, and of its end. -/
structure TextIndex where
  /-- The text. -/
  text : String
  /-- The offsets. -/
  offsets : Array Nat
deriving DecidableEq

namespace TextIndex

/-- One more character. -/
def push (t : TextIndex) (c : Char) : TextIndex :=
  ⟨t.text.push c, t.offsets.push t.text.utf8ByteSize⟩

/-- The index of a sequence of characters. -/
def build (cs : List Char) : TextIndex :=
  let t := cs.foldl push ⟨"", #[]⟩
  ⟨t.text, t.offsets.push t.text.utf8ByteSize⟩

/-- The text from the character number `position` on, or nothing if that cuts a character in
two. -/
def suffix? (t : TextIndex) (position : Nat) : Option String :=
  let start := t.offsets.getD position t.text.utf8ByteSize
  String.fromUTF8? (t.text.toUTF8.extract start t.text.utf8ByteSize)

end TextIndex

/-- The characters from a cursor on, as a string. -/
def Cursor.remainingText? (c : Cursor Char) : Option String :=
  (TextIndex.build c.source.symbols.toList).suffix? c.position

/-- The text indexes that have been made. -/
structure TextIndexes where
  /-- Each index with the identity of its input. -/
  entries : List (Nat × TextIndex) := []

namespace TextIndexes

/-- The index of an input, if it has been made. -/
def find? (ts : TextIndexes) (id : Nat) : Option TextIndex := ts.entries.lookup id

/-- The index of an input, which is made when it is asked for the first time, and kept. -/
def get (ts : TextIndexes) (s : Source Char) : TextIndexes × TextIndex :=
  match ts.find? s.id with
  | some t => (ts, t)
  | none =>
    let t := TextIndex.build s.symbols.toList
    (⟨(s.id, t) :: ts.entries⟩, t)

end TextIndexes

/-- The characters from a cursor on, as a string, cut from the index that is kept. -/
def Cursor.readText (c : Cursor Char) (ts : TextIndexes) : TextIndexes × Option String :=
  let (ts, t) := ts.get c.source
  (ts, t.suffix? c.position)

end ParserKit
