import Mathlib.Algebra.GroupWithZero.Nat
import ParserKit.Proofs.Cursor.History
import ParserKit.Proofs.Cursor.Text

/-!
# Texts that are kept

The index of an input is made for the first cursor that is asked for its text, and it serves the
others from then on. It is made of all symbols of the input, wherever that cursor stands, so it does
not matter which one is the first.

An index has an offset for each character and one for the end, each greater than those before it,
and each at the border between two characters. So a text is never cut inside of a character.

## Main definitions

* `TextIndex.Accurate t cs`: the index of the characters `cs`
* `CursorPool.Knows`: cursors and texts are those of the inputs

## Main results

* `TextIndex.byteOffset_eq_sum`, `TextIndex.byteOffset_lt`, `TextIndex.isValid_byteOffset`: the
  offset of a character
* `TextIndex.accurate_build`: what an index is
* `CursorPool.Knows.exists_step`: a step keeps cursors and texts those of the inputs
* `CursorPool.text_through`: what a cursor is told of its text, after any number of steps
-/

namespace ParserKit

namespace TextIndex

variable {cs : List Char} {i j : Nat}

/-! ## Offsets -/

/-- The offset of a character is the length of all characters before it. -/
theorem byteOffset_eq_sum (cs : List Char) (i : Nat) :
    byteOffset cs i = ((cs.take i).map Char.utf8Size).sum := by
  rw [byteOffset]
  generalize cs.take i = ds
  induction ds with
  | nil => rfl
  | cons c ds ih =>
    rw [← List.singleton_append, String.ofList_append, String.utf8ByteSize_append, ih,
      ← String.singleton_eq_ofList, String.utf8ByteSize_singleton, List.singleton_append,
      List.map_cons, List.sum_cons]

theorem byteOffset_succ (h : i < cs.length) :
    byteOffset cs (i + 1) = byteOffset cs i + cs[i].utf8Size := by
  rw [byteOffset_eq_sum, byteOffset_eq_sum, List.take_add_one, List.getElem?_eq_getElem h,
    Option.toList_some, List.map_append, List.sum_append, List.map_singleton, List.sum_singleton]

theorem byteOffset_lt (hij : i < j) (hj : j ≤ cs.length) : byteOffset cs i < byteOffset cs j := by
  induction j with
  | zero => exact absurd hij (Nat.not_lt_zero _)
  | succ j ih =>
    have hpos : 0 < cs[j].utf8Size := Char.utf8Size_pos _
    rw [byteOffset_succ hj]
    obtain hlt | rfl := Nat.lt_or_eq_of_le (Nat.le_of_lt_succ hij)
    · have hbefore := ih hlt (Nat.le_of_lt hj)
      omega
    · omega

/-- Each offset is at the border between two characters. -/
theorem isValid_byteOffset (cs : List Char) (i : Nat) :
    String.Pos.Raw.IsValid (String.ofList cs) ⟨byteOffset cs i⟩ := by
  have hend : String.Pos.Raw.IsValid (String.ofList (cs.take i)) ⟨byteOffset cs i⟩ :=
    String.Pos.Raw.isValid_rawEndPos
  have happend := hend.append_right (String.ofList (cs.drop i))
  rwa [← String.ofList_append, List.take_append_drop] at happend

/-- An index of a row of characters. -/
structure Accurate (t : TextIndex) (cs : List Char) : Prop where
  /-- The text has all the characters. -/
  text : t.text = String.ofList cs
  /-- There is an offset for each character, and one for the end. -/
  size : t.offsets.size = cs.length + 1
  /-- Each offset is greater than those before it. -/
  increasing : t.offsets.toList.Pairwise (· < ·)
  /-- It is the length of all characters before it. -/
  offset : ∀ i ≤ cs.length, t.offsets[i]? = some ((cs.take i).map Char.utf8Size).sum
  /-- It is at the border between two characters. -/
  border : ∀ o ∈ t.offsets, String.Pos.Raw.IsValid t.text ⟨o⟩
  /-- The text from a character on has the characters from there on. -/
  suffix : ∀ i ≤ cs.length, t.suffix? i = some (String.ofList (cs.drop i))

theorem accurate_build (cs : List Char) : (build cs).Accurate cs where
  text := by rw [build_eq]
  size := by simp [build_eq, byteOffsets]
  increasing := by
    rw [build_eq, byteOffsets, List.pairwise_map]
    refine List.pairwise_lt_range.imp_of_mem fun {i j} _ hj hij => byteOffset_lt hij ?_
    exact Nat.le_of_lt_succ (List.mem_range.1 hj)
  offset i hi := by
    have hlt : i < cs.length + 1 := Nat.lt_succ_of_le hi
    simp [build_eq, byteOffsets, hlt, byteOffset_eq_sum]
  border o ho := by
    rw [build_eq] at ho ⊢
    obtain ⟨i, -, rfl⟩ := List.mem_map.1 (Array.mem_toList_iff.2 ho)
    exact isValid_byteOffset cs i
  suffix i _ := suffix?_build cs i

end TextIndex

namespace TextIndexes

/-! ## Indexes that are kept -/

theorem get_snd (ts : TextIndexes) (s : Source Char) :
    (ts.get s).2 = (ts.find? s.id).getD (.build s.symbols.toList) := by
  unfold get
  split
  · next t h => rw [h, Option.getD_some]
  · next h => rw [h, Option.getD_none]

/-- The index that has been asked for is there, and the others are as before. -/
theorem find?_get (ts : TextIndexes) (s : Source Char) (id : Nat) :
    (ts.get s).1.find? id = if id = s.id then some (ts.get s).2 else ts.find? id := by
  by_cases hid : id = s.id
  · subst hid
    rw [if_pos rfl]
    unfold get
    split
    · next t h => exact h
    · exact List.lookup_cons_self
  · rw [if_neg hid]
    unfold get
    split
    · rfl
    · simp only [find?, List.lookup_cons, beq_false_of_ne hid]

end TextIndexes

namespace CursorPool

variable {p : CursorPool Char} {input : Nat → Array Char} {i : Nat} {c d : Cursor Char}

/-! ## Texts in a pool -/

/-- The cursors of a pool stand in these inputs, and the texts that it keeps are theirs. -/
structure Knows (p : CursorPool Char) (input : Nat → Array Char) : Prop where
  /-- A cursor has the symbols of its input. -/
  cursor : ∀ (i : Nat) c, p.cursors[i]? = some c →
    c.source.id < p.inputs ∧ c.source.symbols = input c.source.id
  /-- A text has all characters of its input. -/
  text : ∀ id t, p.texts.find? id = some t →
    id < p.inputs ∧ t = TextIndex.build (input id).toList

theorem knows_empty (input : Nat → Array Char) : Knows {} input where
  cursor i c h := by simp at h
  text id t h := by cases h

/-- One more cursor of an input that is known. -/
theorem Knows.add (h : p.Knows input) (hlt : d.source.id < p.inputs)
    (hsymbols : d.source.symbols = input d.source.id) : (p.add d).1.Knows input where
  cursor i c hc := by
    rw [add_cursors, Array.getElem?_push] at hc
    split at hc
    · cases hc
      exact ⟨hlt, hsymbols⟩
    · exact h.cursor i c hc
  text := h.text

/-- A new input, about which nothing has been known. -/
theorem Knows.start (h : p.Knows input) (symbols : Array Char) :
    { p with inputs := p.inputs + 1 }.Knows (Function.update input p.inputs symbols) where
  cursor i c hc := by
    obtain ⟨hlt, hsymbols⟩ := h.cursor i c hc
    rw [Function.update_of_ne (Nat.ne_of_lt hlt)]
    exact ⟨Nat.lt_succ_of_lt hlt, hsymbols⟩
  text id t ht := by
    obtain ⟨hlt, htext⟩ := h.text id t ht
    rw [Function.update_of_ne (Nat.ne_of_lt hlt)]
    exact ⟨Nat.lt_succ_of_lt hlt, htext⟩

theorem Knows.exists_move (h : p.Knows input) (m : CursorMove Char) :
    ∃ input', (p.move m).1.Knows input' := by
  obtain ⟨symbols, -, hmove⟩ | ⟨_, _, c, d, -, hc, hd, -, hmove⟩ | ⟨hsame, -⟩ := p.move_cases m
  · rw [hmove]
    refine ⟨_, (h.start symbols).add (Nat.lt_succ_self _) ?_⟩
    exact (Function.update_self p.inputs symbols input).symm
  · obtain ⟨hlt, hsymbols⟩ := h.cursor _ c hc
    rw [hmove]
    exact ⟨input, h.add (hd ▸ hlt) (hd ▸ hsymbols)⟩
  · rw [hsame]
    exact ⟨input, h⟩

/-- The index of an input is the same one, whether it has been made before or not. -/
theorem Knows.get_snd_eq (h : p.Knows input) (hc : p.cursors[i]? = some c) :
    (p.texts.get c.source).2 = .build (input c.source.id).toList := by
  obtain ⟨-, hsymbols⟩ := h.cursor i c hc
  rw [TextIndexes.get_snd]
  cases ht : p.texts.find? c.source.id with
  | none => rw [Option.getD_none, hsymbols]
  | some t => exact (h.text _ t ht).2

/-- To ask for a text adds at most the index of its own input. -/
theorem Knows.tellText (h : p.Knows input) (hc : p.cursors[i]? = some c) :
    (p.tellText c).1.Knows input where
  cursor := h.cursor
  text id t ht := by
    have hfind : (p.texts.get c.source).1.find? id = some t := ht
    rw [TextIndexes.find?_get, h.get_snd_eq hc] at hfind
    split at hfind
    · next hid =>
      subst hid
      exact ⟨(h.cursor i c hc).1, (Option.some.inj hfind).symm⟩
    · exact h.text id t hfind

/-- A step keeps cursors and texts those of the inputs. -/
theorem Knows.exists_step (h : p.Knows input) (s : CursorStep .char) :
    ∃ input', Knows (step (k := .char) p s).1 input' := by
  cases s with
  | move m => exact h.exists_move m
  | ask query i =>
    cases hc : p.cursors[i]? with
    | none =>
      simp only [step, hc]
      exact ⟨input, h⟩
    | some c =>
      simp only [step, hc]
      cases query with
      | remainingText => exact ⟨input, h.tellText hc⟩
      | current | peek | position | length | isEmpty | isAtEnd | remaining | describe =>
        exact ⟨input, h⟩
  | same i j =>
    simp only [step]
    split <;> exact ⟨input, h⟩

/-- The pool after a number of steps. -/
def through (p : CursorPool Char) (steps : List (CursorStep .char)) : CursorPool Char :=
  steps.foldl (fun p s => (step (k := .char) p s).1) p

theorem Knows.exists_through (h : p.Knows input) (steps : List (CursorStep .char)) :
    ∃ input', (p.through steps).Knows input' := by
  induction steps generalizing p input with
  | nil => exact ⟨input, h⟩
  | cons s steps ih =>
    obtain ⟨input', h'⟩ := h.exists_step s
    exact ih h'

/-- After any number of steps, among which cursors may have been asked for their texts in any order,
a cursor is told the text of the symbols that remain. It is cut from an accurate index of its input,
at the border in front of the symbol under the cursor. -/
theorem text_through (steps : List (CursorStep .char))
    (hc : (through {} steps).cursors[i]? = some c) :
    ((through {} steps).step (k := .char) (.ask .remainingText i)).2 =
        .text (String.ofList c.remaining) ∧
      (String.ofList c.remaining).length = c.length - c.position ∧
      ∃ t, ((through {} steps).step (k := .char) (.ask .remainingText i)).1.texts.find?
          c.source.id = some t ∧
        t.Accurate c.source.symbols.toList ∧
        t.offsets[c.position]? =
          some ((c.source.symbols.toList.take c.position).map Char.utf8Size).sum ∧
        ∀ o, t.offsets[c.position]? = some o → String.Pos.Raw.IsValid t.text ⟨o⟩ := by
  obtain ⟨input, h⟩ := (knows_empty fun _ => #[]).exists_through steps
  obtain ⟨-, hsymbols⟩ := h.cursor i c hc
  have hindex : ((through {} steps).texts.get c.source).2 =
      .build c.source.symbols.toList := hsymbols ▸ h.get_snd_eq hc
  have haccurate := TextIndex.accurate_build c.source.symbols.toList
  have hle : c.position ≤ c.source.symbols.toList.length := by
    rw [Array.length_toList]
    exact c.position_le
  have hstep : (through {} steps).step (k := .char) (.ask .remainingText i) =
      (through {} steps).tellText c := by
    simp only [step, hc]
    rfl
  refine ⟨?_, ?_, _, ?_, haccurate, haccurate.offset _ hle, fun o ho => ?_⟩
  · have htext := haccurate.suffix c.position hle
    rw [c.drop_eq] at htext
    rw [hstep, tellText, Cursor.readText]
    simp only [hindex, htext, Option.elim_some]
  · rw [String.length_ofList, c.length_remaining, Cursor.left]
  · rw [hstep]
    show ((through {} steps).texts.get c.source).1.find? c.source.id = _
    rw [TextIndexes.find?_get, if_pos rfl, hindex]
  · exact haccurate.border o (Array.mem_of_getElem? ho)

/-- An input whose characters have two bytes, one and four. The cursor at its end is asked for its
text before the others. -/
def endFirst : List (CursorStep .char) :=
  [.move (.start #['é', 'a', '𝄞']), .move (.advance 0), .move (.advanceBy 0 3),
    .ask .remainingText 2]

/-- The cursor behind the first character is told the other two, from the byte number 2 on. -/
theorem text_through_endFirst :
    (through {} endFirst).texts.entries ≠ [] ∧
    ∃ c, (through {} endFirst).cursors[1]? = some c ∧
      ((through {} endFirst).step (k := .char) (.ask .remainingText 1)).2 = .text "a𝄞" ∧
      ∃ t : TextIndex, t.offsets.size = 4 ∧ t.offsets[1]? = some 2 ∧
        String.Pos.Raw.IsValid t.text ⟨2⟩ := by
  have hc : (through {} endFirst).cursors[1]? =
      some ⟨⟨0, #['é', 'a', '𝄞']⟩, 1, ['a', '𝄞'], rfl, by decide⟩ := rfl
  obtain ⟨htext, -, t, -, haccurate, hoffset, hborder⟩ := text_through endFirst hc
  exact ⟨by decide, _, hc, htext, t, haccurate.size, hoffset, hborder 2 hoffset⟩

end CursorPool

end ParserKit
