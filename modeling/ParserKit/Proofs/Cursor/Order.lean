import ParserKit.Cursor.Basic

/-!
# The order of cursors

A cursor is known by its source and its position; the symbols it carries are determined by
these two. Moving a cursor keeps its source, so the cursors that a parse can reach from a given
one are ordered by their positions, and there are no more of them than symbols are left.

## Main definitions

* `Cursor.Before c d`: `d` stands in the same source, strictly further along
* `Cursor.Reaches c d`: `d` stands in the same source, at the same place or further along

## Main results

* `Cursor.eq_of_position`: source and position determine a cursor
* `Cursor.peek_eq_getElem?`: the symbol under a cursor is the one at its position
* `Cursor.advance_eq_ok_iff`, `Cursor.advanceBy_eq_ok_iff`: where moving a cursor leads
* `Cursor.Before.left_lt`: fewer symbols are left further along
-/

namespace ParserKit.Cursor

variable {σ : Type} {c d e : Cursor σ}

/-- A cursor is a place in an input: what is left of it is what the first symbols leave. -/
theorem eq_of_position (hs : c.source = d.source) (hp : c.position = d.position) : c = d := by
  obtain ⟨s, i, xs, hx, hi⟩ := c
  obtain ⟨t, j, ys, hy, hj⟩ := d
  simp only at hs hp
  subst hs hp
  have hxy : xs = ys := hx.symm.trans hy
  subst hxy
  rfl

/-! ## The symbol under a cursor -/

theorem peek_eq_getElem? (c : Cursor σ) : c.peek = c.source.symbols[c.position]? := by
  simp only [peek, ← c.drop_eq, List.head?_drop, Array.getElem?_toList]

theorem peek_eq_none_iff : c.peek = none ↔ c.position = c.length := by
  have hle := c.position_le
  rw [peek_eq_getElem?, Array.getElem?_eq_none_iff]
  simp only [length]
  omega

/-- The predicate accepts the symbol under the cursor, or there is none that it accepts. -/
theorem accepts_or_rejects (c : Cursor σ) (accepts : σ → Bool) :
    (∃ a, c.peek = some a ∧ accepts a = true) ∨ ∀ a, c.peek = some a → accepts a = false := by
  by_cases h : ∃ a, c.peek = some a ∧ accepts a = true
  · exact .inl h
  · refine .inr fun a hpeek => ?_
    exact Bool.eq_false_iff.2 fun ha => h ⟨a, hpeek, ha⟩

theorem isAtEnd_iff : c.isAtEnd = true ↔ c.position = c.length := by
  rw [← peek_eq_none_iff, isAtEnd, peek, List.isEmpty_iff, List.head?_eq_none_iff]

/-! ## The order -/

/-- `d` stands in the source of `c`, strictly further along. -/
def Before (c d : Cursor σ) : Prop := d.source = c.source ∧ c.position < d.position

theorem Before.trans (hcd : c.Before d) (hde : d.Before e) : c.Before e :=
  ⟨hde.1.trans hcd.1, Nat.lt_trans hcd.2 hde.2⟩

theorem length_eq_of_source (h : d.source = c.source) : d.length = c.length := by
  simp only [length, h]

theorem Before.position_le (h : c.Before d) : d.position ≤ c.length :=
  length_eq_of_source h.1 ▸ d.position_le

/-- Less is left of the input at a later cursor, which is what recursion over the input goes down
by. -/
theorem Before.left_lt (h : c.Before d) : d.left < c.left := by
  have hlen := length_eq_of_source h.1
  have hle := h.position_le
  have hlt := h.2
  simp only [left, hlen]
  omega

/-! ## Moving a cursor -/

/-- A cursor moves by a number of symbols to the cursor that stands so far behind it, if there is
one. -/
theorem advanceBy_eq_ok_iff {n : Nat} :
    c.advanceBy n = .ok d ↔ d.source = c.source ∧ d.position = c.position + n := by
  constructor
  · intro h
    unfold advanceBy at h
    split at h
    · cases h
      exact ⟨rfl, rfl⟩
    · cases h
  · rintro ⟨hs, hp⟩
    have hn : n ≤ c.left := by
      have hle := d.position_le
      rw [hs] at hle
      simp only [left, length]
      omega
    rw [advanceBy, dif_pos hn]
    exact congrArg Except.ok (eq_of_position hs.symm hp.symm)

theorem advance_eq_ok_iff :
    c.advance = .ok d ↔ d.source = c.source ∧ d.position = c.position + 1 := by
  constructor
  · intro h
    unfold advance at h
    split at h
    · cases h
    · cases h
      exact ⟨rfl, rfl⟩
  · rintro ⟨hs, hp⟩
    unfold advance
    split
    · next hnil =>
      have hlen := c.length_remaining
      have hle := d.position_le
      rw [hs] at hle
      simp only [hnil, List.length_nil, left, length] at hlen
      omega
    · exact congrArg Except.ok (eq_of_position hs.symm hp.symm)

theorem exists_advance_of_peek {a : σ} (h : c.peek = some a) : ∃ d, c.advance = .ok d := by
  unfold advance
  split
  · next hnil => simp [peek, hnil] at h
  · exact ⟨_, rfl⟩

theorem exists_advanceBy {n : Nat} (h : n ≤ c.left) : ∃ d, c.advanceBy n = .ok d :=
  ⟨_, dif_pos h⟩

theorem before_of_advance (h : c.advance = .ok d) : c.Before d := by
  obtain ⟨hs, hp⟩ := advance_eq_ok_iff.1 h
  exact ⟨hs, by omega⟩

theorem before_of_advanceBy {n : Nat} (hn : 0 < n) (h : c.advanceBy n = .ok d) : c.Before d := by
  obtain ⟨hs, hp⟩ := advanceBy_eq_ok_iff.1 h
  exact ⟨hs, by omega⟩

/-! ## Cursors from a place on -/

/-- `d` stands in the source of `c`, at the same place or further along. -/
def Reaches (c d : Cursor σ) : Prop := d.source = c.source ∧ c.position ≤ d.position

theorem Reaches.refl (c : Cursor σ) : c.Reaches c := ⟨rfl, Nat.le_refl _⟩

theorem Reaches.trans (hcd : c.Reaches d) (hde : d.Reaches e) : c.Reaches e :=
  ⟨hde.1.trans hcd.1, Nat.le_trans hcd.2 hde.2⟩

theorem reaches_of_advanceBy {n : Nat} (h : c.advanceBy n = .ok d) : c.Reaches d := by
  obtain ⟨hsource, hposition⟩ := advanceBy_eq_ok_iff.1 h
  exact ⟨hsource, hposition ▸ Nat.le_add_right _ _⟩

theorem reaches_of_advance (h : c.advance = .ok d) : c.Reaches d :=
  ⟨(before_of_advance h).1, Nat.le_of_lt (before_of_advance h).2⟩

end ParserKit.Cursor
