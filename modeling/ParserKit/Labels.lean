/-!
# Sets of labels

What a parser would have accepted is told by a set of labels. A set is kept as a list in
increasing order by code point, without repetitions, so two sets with the same members are the
same list and are shown in the same way.

## Main definitions

* `Labels`: a set of labels
* `Labels.insert`, `Labels.union`, `Labels.singleton`
* `Labels.render`: the set as an English list

## Main results

* `Labels.ext_mem`: a set is known by its members
* `Labels.mem_insert`, `Labels.mem_union`: the members of the results
-/

namespace ParserKit

/-- A set of labels: strings in increasing order. -/
structure Labels where
  /-- The labels, the smallest first. -/
  toList : List String
  /-- Every label is smaller than those behind it. -/
  sorted : toList.Pairwise (· < ·)
deriving DecidableEq

namespace Labels

/-- Put a label into an increasing list. -/
def insertInto (label : String) : List String → List String
  | [] => [label]
  | x :: xs =>
    if label < x then label :: x :: xs
    else if label = x then x :: xs
    else x :: insertInto label xs

theorem mem_insertInto {label a : String} {xs : List String} :
    a ∈ insertInto label xs ↔ a = label ∨ a ∈ xs := by
  induction xs with
  | nil => simp [insertInto]
  | cons x xs ih =>
    simp only [insertInto]
    split
    · simp
    · split
      · next h => subst h; simp
      · simp only [List.mem_cons, ih]
        constructor
        · rintro (h | h | h) <;> simp [h]
        · rintro (h | h | h) <;> simp [h]

theorem pairwise_insertInto {label : String} {xs : List String}
    (h : xs.Pairwise (· < ·)) : (insertInto label xs).Pairwise (· < ·) := by
  induction xs with
  | nil => simp [insertInto]
  | cons x xs ih =>
    obtain ⟨hx, hxs⟩ := List.pairwise_cons.1 h
    simp only [insertInto]
    split
    · next hlt =>
      refine List.pairwise_cons.2 ⟨fun a ha => ?_, h⟩
      rcases List.mem_cons.1 ha with rfl | ha
      · exact hlt
      · exact String.lt_trans hlt (hx a ha)
    · split
      · exact h
      · next hlt hne =>
        refine List.pairwise_cons.2 ⟨fun a ha => ?_, ih hxs⟩
        rcases mem_insertInto.1 ha with rfl | ha
        · exact Std.lt_of_le_of_ne (String.not_lt.1 hlt) (Ne.symm hne)
        · exact hx a ha

/-- The set without labels. -/
def empty : Labels := ⟨[], .nil⟩

instance : EmptyCollection Labels := ⟨empty⟩

/-- The set of one label. -/
def singleton (label : String) : Labels := ⟨[label], by simp⟩

/-- The set with one label more. -/
def insert (s : Labels) (label : String) : Labels :=
  ⟨insertInto label s.toList, pairwise_insertInto s.sorted⟩

/-- The labels of either set. -/
def union (s t : Labels) : Labels := t.toList.foldl insert s

/-- Whether a set has no labels. -/
def isEmpty (s : Labels) : Bool := s.toList.isEmpty

instance : Membership String Labels := ⟨fun s a => a ∈ s.toList⟩

theorem mem_iff {s : Labels} {a : String} : a ∈ s ↔ a ∈ s.toList := Iff.rfl

theorem mem_insert {s : Labels} {label a : String} :
    a ∈ s.insert label ↔ a = label ∨ a ∈ s :=
  mem_insertInto

theorem mem_union {s t : Labels} {a : String} : a ∈ s.union t ↔ a ∈ s ∨ a ∈ t := by
  have key (xs : List String) (u : Labels) :
      a ∈ xs.foldl insert u ↔ a ∈ u ∨ a ∈ xs := by
    induction xs generalizing u with
    | nil => simp
    | cons x xs ih =>
      simp only [List.foldl_cons, ih, mem_insert, List.mem_cons]
      constructor
      · rintro ((h | h) | h) <;> simp [h]
      · rintro (h | h | h) <;> simp [h]
  exact key t.toList s

/-- Increasing lists with the same members are the same list. -/
theorem eq_of_pairwise {xs ys : List String} (hx : xs.Pairwise (· < ·))
    (hy : ys.Pairwise (· < ·)) (h : ∀ a, a ∈ xs ↔ a ∈ ys) : xs = ys := by
  induction xs generalizing ys with
  | nil =>
    cases ys with
    | nil => rfl
    | cons y ys => exact absurd ((h y).2 (by simp)) (by simp)
  | cons x xs ih =>
    cases ys with
    | nil => exact absurd ((h x).1 (by simp)) (by simp)
    | cons y ys =>
      obtain ⟨hx1, hx2⟩ := List.pairwise_cons.1 hx
      obtain ⟨hy1, hy2⟩ := List.pairwise_cons.1 hy
      have hxy : x = y := by
        rcases List.mem_cons.1 ((h x).1 (by simp)) with e | hm
        · exact e
        · rcases List.mem_cons.1 ((h y).2 (by simp)) with e | hm'
          · exact e.symm
          · exact absurd (hx1 y hm') (String.lt_asymm (hy1 x hm))
      subst hxy
      congr 1
      refine ih hx2 hy2 fun a => ⟨fun ha => ?_, fun ha => ?_⟩
      · rcases List.mem_cons.1 ((h a).1 (by simp [ha])) with e | hm
        · exact absurd (e ▸ hx1 a ha) (String.lt_irrefl _)
        · exact hm
      · rcases List.mem_cons.1 ((h a).2 (by simp [ha])) with e | hm
        · exact absurd (e ▸ hy1 a ha) (String.lt_irrefl _)
        · exact hm

/-- A set of labels is known by its members. -/
theorem ext_mem {s t : Labels} (h : ∀ a, a ∈ s ↔ a ∈ t) : s = t := by
  obtain ⟨xs, hx⟩ := s
  obtain ⟨ys, hy⟩ := t
  congr 1
  exact eq_of_pairwise hx hy h

/-- A label between back quotes. -/
def quote (label : String) : String := "`" ++ label ++ "`"

/-- The labels as an English list: one alone, two joined by "or", more with commas and an "or"
before the last. -/
def render (s : Labels) : String :=
  match s.toList with
  | [] => "nothing"
  | [a] => quote a
  | [a, b] => quote a ++ " or " ++ quote b
  | a :: b :: c :: rest =>
    let all := a :: b :: c :: rest
    ", ".intercalate (all.dropLast.map quote) ++ ", or " ++
      quote (all.getLast (by simp [all]))

end Labels

end ParserKit
