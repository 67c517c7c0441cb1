import Mathlib.Data.List.Induction
import ParserKit.Cursor.TextIndex

/-!
# The text from a cursor on

The index of a text holds, for each character, the number of bytes before it. Cutting the text at
such a place leaves whole characters on both sides, so the text from a cursor on is that of the
symbols which remain, wherever the cursor stands.

## Main results

* `TextIndex.build_eq`: the text and the offsets of an index
* `TextIndex.suffix?_build`: what an index gives from a character on
* `Cursor.remainingText?_eq`: the text from a cursor on is that of the remaining symbols
-/

namespace ParserKit

namespace TextIndex

/-- The number of bytes before the character number `position`. -/
def byteOffset (cs : List Char) (position : Nat) : Nat :=
  (String.ofList (cs.take position)).utf8ByteSize

/-- The offsets of the first `count` characters. -/
def byteOffsets (cs : List Char) (count : Nat) : Array Nat :=
  ((List.range count).map (byteOffset cs)).toArray

theorem byteOffsets_succ (cs : List Char) (count : Nat) :
    byteOffsets cs (count + 1) = (byteOffsets cs count).push (byteOffset cs count) := by
  simp [byteOffsets, List.range_succ]

/-- Characters further on do not change the offsets of those before them. -/
theorem byteOffsets_append (cs ds : List Char) :
    byteOffsets (cs ++ ds) cs.length = byteOffsets cs cs.length := by
  refine congrArg List.toArray (List.map_congr_left fun i hi => ?_)
  have hle : i ≤ cs.length := Nat.le_of_lt (List.mem_range.1 hi)
  rw [byteOffset, byteOffset, List.take_append_of_le_length hle]

theorem foldl_push (cs : List Char) :
    cs.foldl push ⟨"", #[]⟩ = ⟨String.ofList cs, byteOffsets cs cs.length⟩ := by
  induction cs using List.reverseRecOn with
  | nil => rfl
  | append_singleton cs c ih =>
    have hoffset : byteOffset (cs ++ [c]) cs.length = (String.ofList cs).utf8ByteSize := by
      rw [byteOffset, List.take_left]
    rw [List.foldl_append, ih, List.length_append, List.length_singleton, byteOffsets_succ,
      byteOffsets_append, hoffset]
    simp [push, String.ofList_append]

/-- The index that is built holds the text and where each of its characters begins. -/
theorem build_eq (cs : List Char) :
    build cs = ⟨String.ofList cs, byteOffsets cs (cs.length + 1)⟩ := by
  rw [build, foldl_push, byteOffsets_succ, byteOffset, List.take_length]

/-- A position past the end has the offset of the end, by default. -/
theorem getD_byteOffsets (cs : List Char) (position : Nat) :
    (byteOffsets cs (cs.length + 1)).getD position (String.ofList cs).utf8ByteSize =
      byteOffset cs position := by
  rcases Nat.lt_or_ge position (cs.length + 1) with hlt | hge
  · simp [byteOffsets, hlt]
  · have htake : cs.take position = cs := List.take_of_length_le (by omega)
    have hout : ¬ position < cs.length + 1 := by omega
    simp [byteOffsets, byteOffset, htake, hout]

theorem fromUTF8?_toByteArray (s : String) : String.fromUTF8? s.toByteArray = some s := by
  rw [String.fromUTF8?, dif_pos s.isValidUTF8]
  rfl

/-- The index gives the characters from `position` on, whole. -/
theorem suffix?_build (cs : List Char) (position : Nat) :
    (build cs).suffix? position = some (String.ofList (cs.drop position)) := by
  have hsplit : (String.ofList cs).toByteArray =
      (String.ofList (cs.take position)).toByteArray ++
        (String.ofList (cs.drop position)).toByteArray := by
    rw [← String.toByteArray_append, ← String.ofList_append, List.take_append_drop]
  have hcut : (String.ofList cs).toByteArray.extract (byteOffset cs position)
      (String.ofList cs).utf8ByteSize = (String.ofList (cs.drop position)).toByteArray := by
    rw [String.utf8ByteSize, hsplit]
    exact ByteArray.extract_append_eq_right rfl ByteArray.size_append
  simp only [suffix?, build_eq, getD_byteOffsets, String.toUTF8, hcut, fromUTF8?_toByteArray]

end TextIndex

/-- The text left at a cursor is there, and is made of the symbols left. -/
theorem Cursor.remainingText?_eq (c : Cursor Char) :
    c.remainingText? = some (String.ofList c.remaining) := by
  rw [remainingText?, TextIndex.suffix?_build, c.drop_eq]

end ParserKit
