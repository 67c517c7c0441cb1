import Mathlib.Data.List.Induction
import ParserKit.Proofs.Cursor.Order
import ParserKit.Session.Cursors

/-!
# The history of a cursor

Every cursor of a pool goes back to a start, from which it was reached by moving on. The number of
that start among the moves and the number of symbols that were passed tell all about the cursor: the
symbols that remain are those of the start without the ones that were passed, and two cursors are
the same exactly if they agree in both numbers. So two inputs with the same symbols are kept apart,
and it does not matter by which moves a place was reached.

A cursor never changes. A move that faults leaves the pool as it was, and any other one only adds to
it.

## Main definitions

* `Cursor.advanceTimes`: moving by one symbol, a number of times
* `CursorPool.Descends moves i t n`: the cursor `i` is `n` symbols behind the start number `t`
* `CursorPool.Faithful`: what cursors tell, and what moving them does

## Main results

* `Cursor.advanceBy_add`, `Cursor.advanceBy_eq_advanceTimes`: moving in several steps
* `CursorPool.move_cases`: all that a move can do
* `CursorPool.Descends.exists_cursor`: what a cursor is, from its history
* `CursorPool.faithful_after`: cursors after any number of moves
-/

namespace ParserKit

namespace Cursor

variable {σ : Type} {c d : Cursor σ} {n : Nat}

/-! ## Moves that fault -/

/-- At the end a cursor faults when it is moved, and tells where it stands. -/
theorem advance_of_remaining_eq_nil (h : c.remaining = []) :
    c.advance = .error (.stepAtEnd c.position) := by
  unfold advance
  split
  · rfl
  · next hcons => exact absurd (h.symm.trans hcons) nofun

theorem exists_advance (h : c.remaining ≠ []) : ∃ d, c.advance = .ok d := by
  unfold advance
  split
  · next hnil => exact absurd hnil h
  · exact ⟨_, rfl⟩

theorem advanceBy_of_lt (h : c.remaining.length < n) :
    c.advanceBy n = .error (.stepPastEnd n c.position c.length) := by
  rw [length_remaining] at h
  exact dif_neg (Nat.not_le.2 h)

/-! ## Moving in several steps -/

/-- The cursor after a number of moves by one symbol. -/
def advanceTimes (c : Cursor σ) : Nat → Except Fault (Cursor σ)
  | 0 => .ok c
  | n + 1 => c.advance >>= fun d => d.advanceTimes n

theorem bind_eq_ok_iff {α β : Type} {x : Except Fault α} {f : α → Except Fault β} {b : β} :
    x >>= f = .ok b ↔ ∃ a, x = .ok a ∧ f a = .ok b := by
  cases x with
  | error e => exact ⟨nofun, fun ⟨_, h, _⟩ => nomatch h⟩
  | ok a => exact ⟨fun h => ⟨a, rfl, h⟩, fun ⟨_, ha, h⟩ => Except.ok.inj ha ▸ h⟩

theorem toOption_eq_of_ok_iff {α : Type} {x y : Except Fault α}
    (h : ∀ a, x = .ok a ↔ y = .ok a) : x.toOption = y.toOption := by
  cases x with
  | ok a => rw [(h a).1 rfl]
  | error e =>
    cases y with
    | ok a => exact absurd ((h a).2 rfl) nofun
    | error e' => rfl

/-- A place that is further along can be reached by any way that is not longer. -/
theorem exists_advanceBy_of_position {m : Nat} (hs : d.source = c.source)
    (hp : d.position = c.position + (n + m)) : ∃ e, c.advanceBy n = .ok e := by
  have hle := d.position_le
  rw [hs] at hle
  refine exists_advanceBy ?_
  simp only [left, length]
  omega

theorem advanceBy_advanceBy_eq_ok_iff {m : Nat} :
    (c.advanceBy n >>= fun e => e.advanceBy m) = .ok d ↔
      d.source = c.source ∧ d.position = c.position + (n + m) := by
  rw [bind_eq_ok_iff]
  constructor
  · rintro ⟨e, he, hd⟩
    obtain ⟨hes, hep⟩ := advanceBy_eq_ok_iff.1 he
    obtain ⟨hds, hdp⟩ := advanceBy_eq_ok_iff.1 hd
    exact ⟨hds.trans hes, by omega⟩
  · rintro ⟨hs, hp⟩
    obtain ⟨e, he⟩ := exists_advanceBy_of_position hs hp
    obtain ⟨hes, hep⟩ := advanceBy_eq_ok_iff.1 he
    exact ⟨e, he, advanceBy_eq_ok_iff.2 ⟨hs.trans hes.symm, by omega⟩⟩

/-- To move by one symbol at a time is to move by their number. -/
theorem advanceTimes_eq_ok_iff :
    c.advanceTimes n = .ok d ↔ d.source = c.source ∧ d.position = c.position + n := by
  induction n generalizing c with
  | zero =>
    rw [advanceTimes, Except.ok.injEq]
    constructor
    · rintro rfl
      exact ⟨rfl, rfl⟩
    · rintro ⟨hs, hp⟩
      exact eq_of_position hs.symm hp.symm
  | succ n ih =>
    have hfirst (e : Cursor σ) : c.advance = .ok e ↔ c.advanceBy 1 = .ok e := by
      rw [advance_eq_ok_iff, advanceBy_eq_ok_iff]
    have hrest (e : Cursor σ) : e.advanceTimes n = .ok d ↔ e.advanceBy n = .ok d := by
      rw [ih, advanceBy_eq_ok_iff]
    rw [advanceTimes, bind_eq_ok_iff]
    simp only [hfirst, hrest]
    rw [← bind_eq_ok_iff, advanceBy_advanceBy_eq_ok_iff, Nat.add_comm 1 n]

/-- Moving by a number of symbols is moving by one symbol as many times, and one of them faults if
the other does. -/
theorem advanceBy_eq_advanceTimes (c : Cursor σ) (n : Nat) :
    (c.advanceBy n).toOption = (c.advanceTimes n).toOption :=
  toOption_eq_of_ok_iff fun _ => advanceBy_eq_ok_iff.trans advanceTimes_eq_ok_iff.symm

/-- Two moves are one move by the sum, and one of them faults if the other does. -/
theorem advanceBy_add (c : Cursor σ) (n m : Nat) :
    (c.advanceBy n >>= fun d => d.advanceBy m).toOption = (c.advanceBy (n + m)).toOption :=
  toOption_eq_of_ok_iff fun _ => advanceBy_advanceBy_eq_ok_iff.trans advanceBy_eq_ok_iff.symm

/-- As long as symbols are left for a move, its end is a word if the length of the input is one. -/
theorem toNat_position_add {count : UInt64} (hlength : c.length < UInt64.size)
    (hcount : count.toNat ≤ c.remaining.length) :
    (UInt64.ofNat c.position + count).toNat = c.position + count.toNat := by
  have hle := c.position_le
  rw [length_remaining] at hcount
  simp only [left, length] at hcount hlength
  rw [UInt64.toNat_add, UInt64.toNat_ofNat_of_lt' (by omega), Nat.mod_eq_of_lt]
  simp only [UInt64.size] at hlength
  omega

end Cursor

/-- The cursor from which a move leads on, and the number of symbols that it passes. -/
def CursorMove.way? {σ : Type} : CursorMove σ → Option (Nat × Nat)
  | .start _ => none
  | .advance i => some (i, 1)
  | .advanceBy i count => some (i, count)
  | .copy i => some (i, 0)

namespace CursorPool

variable {σ : Type} {p : CursorPool σ} {moves : List (CursorMove σ)} {m : CursorMove σ}
  {i j t u n : Nat} {c d : Cursor σ}

/-! ## What a move can do -/

@[simp] theorem add_cursors (p : CursorPool σ) (c : Cursor σ) :
    (p.add c).1.cursors = p.cursors.push c := rfl

/-- A move makes a cursor from a start or from another cursor, or it makes none and changes
nothing. -/
theorem move_cases (p : CursorPool σ) (m : CursorMove σ) :
    (∃ symbols, m = .start symbols ∧
      p.move m = { p with inputs := p.inputs + 1 }.add (.start p.inputs symbols)) ∨
    (∃ i n c d, m.way? = some (i, n) ∧ p.cursors[i]? = some c ∧ d.source = c.source ∧
      d.position = c.position + n ∧ p.move m = p.add d) ∨
    ((p.move m).1 = p ∧ ∀ i position, (p.move m).2 ≠ .made i position) := by
  have key (i n : Nat) (f : Cursor σ → Except Fault (Cursor σ)) (hway : m.way? = some (i, n))
      (hmissing : p.cursors[i]? = none → p.move m = (p, .missing))
      (hmove : ∀ c, p.cursors[i]? = some c → p.move m = p.addExcept (f c))
      (hf : ∀ c d, f c = .ok d → d.source = c.source ∧ d.position = c.position + n) :
      (∃ i n c d, m.way? = some (i, n) ∧ p.cursors[i]? = some c ∧ d.source = c.source ∧
        d.position = c.position + n ∧ p.move m = p.add d) ∨
      ((p.move m).1 = p ∧ ∀ i position, (p.move m).2 ≠ .made i position) := by
    cases hc : p.cursors[i]? with
    | none =>
      rw [hmissing hc]
      exact .inr ⟨rfl, nofun⟩
    | some c =>
      rw [hmove c hc]
      cases hd : f c with
      | error e => exact .inr ⟨rfl, nofun⟩
      | ok d =>
        obtain ⟨hs, hp⟩ := hf c d hd
        exact .inl ⟨i, n, c, d, hway, hc, hs, hp, rfl⟩
  cases m with
  | start symbols => exact .inl ⟨symbols, rfl, rfl⟩
  | advance i =>
    exact .inr (key i 1 Cursor.advance rfl (fun h => by rw [move, h]) (fun c h => by rw [move, h])
      fun _ _ => Cursor.advance_eq_ok_iff.1)
  | advanceBy i count =>
    exact .inr (key i count (·.advanceBy count) rfl (fun h => by rw [move, h])
      (fun c h => by rw [move, h]) fun _ _ => Cursor.advanceBy_eq_ok_iff.1)
  | copy i =>
    refine .inr (key i 0 .ok rfl (fun h => by rw [move, h]) (fun c h => ?_) fun c d h => ?_)
    · rw [move, h]
      rfl
    · cases h
      exact ⟨rfl, rfl⟩

/-- A move adds one cursor behind those which there are, or it changes nothing. -/
theorem move_adds_or_keeps (p : CursorPool σ) (m : CursorMove σ) :
    (∃ (q : CursorPool σ) (d : Cursor σ),
      q.cursors = p.cursors ∧ p.inputs ≤ q.inputs ∧ p.move m = q.add d) ∨
    ((p.move m).1 = p ∧ ∀ i position, (p.move m).2 ≠ .made i position) := by
  obtain ⟨symbols, -, hmove⟩ | ⟨_, _, _, d, -, -, -, -, hmove⟩ | hkeeps := p.move_cases m
  · exact .inl ⟨{ p with inputs := p.inputs + 1 }, _, rfl, Nat.le_succ _, hmove⟩
  · exact .inl ⟨p, d, rfl, Nat.le_refl _, hmove⟩
  · exact .inr hkeeps

/-- A move that names no cursor of the pool does nothing. -/
theorem move_of_missing (hway : m.way? = some (i, n)) (h : p.cursors[i]? = none) :
    p.move m = (p, .missing) := by
  cases m with
  | start symbols => cases hway
  | advance j | advanceBy j count | copy j =>
    cases hway
    simp only [move, h]

/-- A move that faults leaves the pool as it was. -/
theorem move_of_fault {f : Fault} (h : (p.move m).2 = .fault f) : (p.move m).1 = p := by
  obtain ⟨q, d, -, -, hmove⟩ | ⟨hsame, -⟩ := p.move_adds_or_keeps m
  · rw [hmove] at h
    cases h
  · exact hsame

/-- Cursors stay where they are in the pool. -/
theorem getElem?_move (h : p.cursors[i]? = some c) : (p.move m).1.cursors[i]? = some c := by
  obtain ⟨q, d, hcursors, -, hmove⟩ | ⟨hsame, -⟩ := p.move_adds_or_keeps m
  · have hlt : i < q.cursors.size := hcursors ▸ (Array.getElem?_eq_some_iff.1 h).1
    rw [hmove, add_cursors, Array.getElem?_push_lt hlt, ← Array.getElem?_eq_getElem hlt, hcursors]
    exact h
  · rw [hsame]
    exact h

theorem inputs_le_move (p : CursorPool σ) (m : CursorMove σ) : p.inputs ≤ (p.move m).1.inputs := by
  obtain ⟨q, d, -, hle, hmove⟩ | ⟨hsame, -⟩ := p.move_adds_or_keeps m
  · rw [hmove]
    exact hle
  · exact Nat.le_of_eq (congrArg inputs hsame.symm)

/-! ## Any number of moves -/

/-- The pool after a number of moves. -/
def after (p : CursorPool σ) (moves : List (CursorMove σ)) : CursorPool σ :=
  moves.foldl (fun p m => (p.move m).1) p

@[simp] theorem after_nil (p : CursorPool σ) : p.after [] = p := rfl

@[simp] theorem after_cons (p : CursorPool σ) (m : CursorMove σ) (moves : List (CursorMove σ)) :
    p.after (m :: moves) = (p.move m).1.after moves := rfl

theorem after_append (p : CursorPool σ) (moves more : List (CursorMove σ)) :
    p.after (moves ++ more) = (p.after moves).after more :=
  List.foldl_append

/-- A cursor stays as it is, whatever comes next. -/
theorem getElem?_after (h : p.cursors[i]? = some c) (moves : List (CursorMove σ)) :
    (p.after moves).cursors[i]? = some c := by
  induction moves generalizing p with
  | nil => exact h
  | cons m moves ih => exact ih (getElem?_move h)

theorem inputs_le_after (p : CursorPool σ) (moves : List (CursorMove σ)) :
    p.inputs ≤ (p.after moves).inputs := by
  induction moves generalizing p with
  | nil => exact Nat.le_refl _
  | cons m moves ih => exact Nat.le_trans (p.inputs_le_move m) (ih _)

/-- The pool before the move number `t`. -/
def before (moves : List (CursorMove σ)) (t : Nat) : CursorPool σ := after {} (moves.take t)

theorem before_succ (h : moves[t]? = some m) :
    before moves (t + 1) = ((before moves t).move m).1 := by
  rw [before, List.take_add_one, h, after_append]
  rfl

theorem after_before (moves : List (CursorMove σ)) (t : Nat) :
    (before moves t).after (moves.drop t) = after {} moves := by
  rw [before, ← after_append, List.take_append_drop]

theorem before_after_before (h : t ≤ u) :
    (before moves t).after ((moves.take u).drop t) = before moves u := by
  have htake : before moves t = before (moves.take u) t := by
    rw [before, before, List.take_take, Nat.min_eq_left h]
  rw [htake]
  exact after_before _ _

/-- A start has an input of its own. -/
theorem inputs_before_lt {symbols : Array σ} (ht : moves[t]? = some (.start symbols))
    (h : t < u) : (before moves t).inputs < (before moves u).inputs := by
  have hsucc : (before moves (t + 1)).inputs = (before moves t).inputs + 1 := by
    rw [before_succ ht]
    rfl
  have hle : (before moves (t + 1)).inputs ≤ (before moves u).inputs := by
    rw [← before_after_before h]
    exact inputs_le_after _ _
  omega

/-! ## Where a cursor comes from -/

/-- The move number `t` is `m`, and it makes the cursor number `i`. -/
def Makes (moves : List (CursorMove σ)) (t : Nat) (m : CursorMove σ) (i : Nat) : Prop :=
  moves[t]? = some m ∧ ∃ position, ((before moves t).move m).2 = .made i position

/-- The cursor number `i` goes back to the start which is the move number `t`, and it is `n` symbols
behind it. -/
inductive Descends (moves : List (CursorMove σ)) : Nat → Nat → Nat → Prop
  /-- A start. -/
  | start {symbols : Array σ} {i t : Nat} (h : Makes moves t (.start symbols) i) :
    Descends moves i t 0
  /-- A move from another cursor. -/
  | step {m : CursorMove σ} {i j t u n count : Nat} (h : Makes moves u m i)
    (hway : m.way? = some (j, count)) (hj : Descends moves j t n) : Descends moves i t (n + count)

/-- What a move has made is still there. -/
theorem getElem?_of_move_eq_add {q : CursorPool σ} (ht : moves[t]? = some m)
    (hmove : (before moves t).move m = q.add d) :
    (after {} moves).cursors[q.cursors.size]? = some d := by
  rw [← after_before moves (t + 1), before_succ ht]
  refine getElem?_after ?_ _
  rw [hmove, add_cursors, Array.getElem?_push_size]

/-- What a cursor is, from its history. -/
theorem Descends.exists_cursor (h : Descends moves i t n) :
    ∃ symbols c, moves[t]? = some (.start symbols) ∧ (after {} moves).cursors[i]? = some c ∧
      c.source = ⟨(before moves t).inputs, symbols⟩ ∧ c.position = n := by
  induction h with
  | @start symbols i t h =>
    obtain ⟨ht, position, hmade⟩ := h
    cases hmade
    exact ⟨symbols, _, ht, getElem?_of_move_eq_add ht rfl, rfl, rfl⟩
  | @step m i j t u n count h hway hj ih =>
    obtain ⟨hu, position, hmade⟩ := h
    obtain ⟨symbols, c, ht, hc, hsource, hposition⟩ := ih
    obtain ⟨_, rfl, -⟩ | ⟨j', count', c', d, hway', hc', hd, hdposition, hmove⟩ | ⟨-, hnone⟩ :=
      (before moves u).move_cases m
    · cases hway
    · obtain ⟨rfl, rfl⟩ : j' = j ∧ count' = count :=
        Prod.mk.inj (Option.some.inj (hway'.symm.trans hway))
      -- the cursor that is moved is that of the end, as it has not changed
      have hcc : c' = c := by
        have hlater := getElem?_after hc' (moves.drop u)
        rw [after_before, hc] at hlater
        exact (Option.some.inj hlater).symm
      subst hcc
      rw [hmove] at hmade
      cases hmade
      exact ⟨symbols, d, ht, getElem?_of_move_eq_add hu hmove, hd.trans hsource, by omega⟩
    · exact absurd hmade (hnone i position)

theorem before_concat (h : t ≤ moves.length) : before (moves ++ [m]) t = before moves t := by
  rw [before, List.take_append_of_le_length h, before]

theorem before_length (moves : List (CursorMove σ)) :
    before moves moves.length = after {} moves := by
  rw [before, List.take_length]

/-- What a move makes it makes also if more moves follow. -/
theorem Makes.concat {k : CursorMove σ} (h : Makes moves t k i) : Makes (moves ++ [m]) t k i := by
  obtain ⟨ht, position, hmade⟩ := h
  have hlt : t < moves.length := (List.getElem?_eq_some_iff.1 ht).1
  refine ⟨?_, position, ?_⟩
  · rw [List.getElem?_append_left hlt, ht]
  · rw [before_concat (Nat.le_of_lt hlt), hmade]

/-- Every cursor has been made by one of the moves. -/
theorem exists_makes (h : i < (after {} moves).cursors.size) : ∃ t m, Makes moves t m i := by
  induction moves using List.reverseRecOn with
  | nil => exact absurd h (Nat.not_lt_zero _)
  | append_singleton moves m ih =>
    rw [after_append, after_cons, after_nil] at h
    by_cases hi : i < (after {} moves).cursors.size
    · obtain ⟨t, k, hmakes⟩ := ih hi
      exact ⟨t, k, hmakes.concat⟩
    · -- the cursor is not one of the old ones, so the last move made it
      refine ⟨moves.length, m, List.getElem?_concat_length, ?_⟩
      rw [before_concat (Nat.le_refl _), before_length]
      obtain ⟨q, d, hcursors, -, hmove⟩ | ⟨hsame, -⟩ := (after {} moves).move_adds_or_keeps m
      · rw [hmove, add_cursors, Array.size_push] at h
        rw [← hcursors] at hi
        obtain rfl : i = q.cursors.size := by omega
        rw [hmove]
        exact ⟨d.position, rfl⟩
      · rw [hsame] at h
        exact absurd h hi

/-- Every cursor goes back to a start. -/
theorem exists_descends (h : i < (after {} moves).cursors.size) : ∃ t n, Descends moves i t n := by
  -- a cursor is made from one with a smaller number
  induction i using Nat.strongRecOn with
  | ind i ih =>
    obtain ⟨t, m, hmakes⟩ := exists_makes h
    obtain ⟨-, position, hmade⟩ := id hmakes
    obtain ⟨symbols, rfl, -⟩ | ⟨j, count, c, d, hway, hc, -, -, hmove⟩ | ⟨-, hnone⟩ :=
      (before moves t).move_cases m
    · exact ⟨t, 0, .start hmakes⟩
    · rw [hmove] at hmade
      cases hmade
      have hlt : j < (before moves t).cursors.size := (Array.getElem?_eq_some_iff.1 hc).1
      obtain ⟨u, n, hj⟩ := ih j hlt (Nat.lt_trans hlt h)
      exact ⟨u, n + count, .step hmakes hway hj⟩
    · exact absurd hmade (hnone i position)

/-- Two cursors are the same exactly if they go back to one start and have passed equally many
symbols. -/
theorem Descends.same_iff (hi : Descends moves i t n) {k : Nat} (hj : Descends moves j u k)
    (hc : (after {} moves).cursors[i]? = some c) (hd : (after {} moves).cursors[j]? = some d) :
    c.same d = true ↔ t = u ∧ n = k := by
  obtain ⟨symbols, c', ht, hc', hcsource, rfl⟩ := hi.exists_cursor
  obtain ⟨symbols', d', hu, hd', hdsource, rfl⟩ := hj.exists_cursor
  obtain rfl : c = c' := Option.some.inj (hc.symm.trans hc')
  obtain rfl : d = d' := Option.some.inj (hd.symm.trans hd')
  rw [Cursor.same, Bool.and_eq_true, beq_iff_eq, beq_iff_eq, hcsource, hdsource]
  refine and_congr_left fun _ => ⟨fun hid => ?_, fun h => by rw [h]⟩
  -- of two different starts the later one has a greater input
  obtain hlt | heq | hgt := Nat.lt_trichotomy t u
  · exact absurd hid (Nat.ne_of_lt (inputs_before_lt ht hlt))
  · exact heq
  · exact absurd hid.symm (Nat.ne_of_lt (inputs_before_lt hu hgt))

/-! ## What is true of a pool -/

section Answers

variable (hc : p.cursors[i]? = some c)

include hc

theorem move_advance_of_nil (h : c.remaining = []) :
    (p.move (.advance i)).2 = .fault (.stepAtEnd c.position) := by
  simp only [move, hc, Cursor.advance_of_remaining_eq_nil h, addExcept]

theorem move_advance_of_ne_nil (h : c.remaining ≠ []) :
    (p.move (.advance i)).2 = .made p.cursors.size (c.position + 1) := by
  obtain ⟨d, hd⟩ := Cursor.exists_advance h
  simp only [move, hc, hd, addExcept, add, (Cursor.advance_eq_ok_iff.1 hd).2]

theorem move_advanceBy_of_lt (h : c.remaining.length < n) :
    (p.move (.advanceBy i n)).2 = .fault (.stepPastEnd n c.position c.length) := by
  simp only [move, hc, Cursor.advanceBy_of_lt h, addExcept]

theorem move_advanceBy_of_le (h : n ≤ c.remaining.length) :
    (p.move (.advanceBy i n)).2 = .made p.cursors.size (c.position + n) := by
  obtain ⟨d, hd⟩ := Cursor.exists_advanceBy (c.length_remaining ▸ h)
  simp only [move, hc, hd, addExcept, add, (Cursor.advanceBy_eq_ok_iff.1 hd).2]

end Answers

/-- An answer that is one of two, depending on a condition, tells whether the condition holds. -/
theorem answer_iff {answer yes no : CursorAnswer σ} {P : Prop} (hyes : P → answer = yes)
    (hno : ¬ P → answer = no) (hne : yes ≠ no) : (answer = yes ↔ P) ∧ (answer = no ↔ ¬ P) := by
  by_cases h : P
  · simp [h, hyes h, hne]
  · simp [h, hno h, hne.symm]

/-- What is true of a pool that has been made by a number of moves. -/
structure Faithful (p : CursorPool σ) (moves : List (CursorMove σ)) : Prop where
  /-- Every cursor goes back to a start. -/
  descends : ∀ i c, p.cursors[i]? = some c → ∃ t n, Descends moves i t n
  /-- Its position is the number of symbols that it has passed, and the symbols of the start that
  remain are the others. -/
  place : ∀ i t n, Descends moves i t n →
    ∃ symbols c, moves[t]? = some (.start symbols) ∧ p.cursors[i]? = some c ∧
      c.source.symbols = symbols ∧ c.position = n ∧ n ≤ symbols.size ∧
      c.remaining = symbols.toList.drop n ∧ c.peek = c.remaining.head? ∧ c.peek = symbols[n]? ∧
      (c.isAtEnd = true ↔ c.remaining = [])
  /-- A start makes a cursor before all symbols of its input. -/
  start : ∀ symbols, (p.move (.start symbols)).2 = .made p.cursors.size 0
  /-- A copy is made at the same place. -/
  copy : ∀ i c, p.cursors[i]? = some c →
    (p.move (.copy i)).2 = .made p.cursors.size c.position
  /-- A move from a cursor that is not there does nothing. -/
  missing : ∀ m i n, m.way? = some (i, n) → p.cursors[i]? = none → p.move m = (p, .missing)
  /-- Moving by one symbol faults exactly at the end. -/
  advance : ∀ i c, p.cursors[i]? = some c →
    ((p.move (.advance i)).2 = .fault (.stepAtEnd c.position) ↔ c.remaining = []) ∧
    ((p.move (.advance i)).2 = .made p.cursors.size (c.position + 1) ↔ ¬ c.remaining = [])
  /-- Moving by some symbols faults exactly if there are fewer. -/
  advanceBy : ∀ i c n, p.cursors[i]? = some c →
    ((p.move (.advanceBy i n)).2 = .fault (.stepPastEnd n c.position c.length) ↔
      c.remaining.length < n) ∧
    ((p.move (.advanceBy i n)).2 = .made p.cursors.size (c.position + n) ↔
      ¬ c.remaining.length < n)
  /-- The end of a move that does not fault is a word, if the length of the input is one. -/
  no_wrap : ∀ (c : Cursor σ) (n : UInt64), c.length < UInt64.size → n.toNat ≤ c.remaining.length →
    (UInt64.ofNat c.position + n).toNat = c.position + n.toNat
  /-- A move that faults changes nothing. -/
  fault_keeps : ∀ m f, (p.move m).2 = .fault f → (p.move m).1 = p
  /-- No move changes a cursor. -/
  stays : ∀ (i : Nat) c more, p.cursors[i]? = some c → (p.after more).cursors[i]? = some c
  /-- Moving by some symbols is moving by one symbol as many times. -/
  advanceBy_eq_times : ∀ (c : Cursor σ) n, (c.advanceBy n).toOption = (c.advanceTimes n).toOption
  /-- Two moves are one move by the sum. -/
  advanceBy_twice : ∀ (c : Cursor σ) a b,
    (c.advanceBy a >>= fun d => d.advanceBy b).toOption = (c.advanceBy (a + b)).toOption
  /-- Two cursors are the same exactly if they go back to one start and have the same position. -/
  same : ∀ (i j : Nat) c d t u n k, p.cursors[i]? = some c → p.cursors[j]? = some d →
    Descends moves i t n → Descends moves j u k →
    (c.same d = true ↔ t = u ∧ c.position = d.position)

/-- After any number of moves the cursors are faithful to their inputs. -/
theorem faithful_after (moves : List (CursorMove σ)) : Faithful (after {} moves) moves where
  descends i c hc := exists_descends (Array.getElem?_eq_some_iff.1 hc).1
  place i t n h := by
    obtain ⟨symbols, c, ht, hc, hsource, rfl⟩ := h.exists_cursor
    have hsymbols : c.source.symbols = symbols := congrArg Source.symbols hsource
    refine ⟨symbols, c, ht, hc, hsymbols, rfl, ?_, ?_, rfl, ?_, List.isEmpty_iff⟩
    · exact hsymbols ▸ c.position_le
    · rw [← c.drop_eq, hsymbols]
    · rw [c.peek_eq_getElem?, hsymbols]
  start symbols := rfl
  copy i c hc := by simp only [move, hc, add]
  missing m i n hway h := move_of_missing hway h
  advance i c hc := answer_iff (move_advance_of_nil hc) (move_advance_of_ne_nil hc) nofun
  advanceBy i c n hc :=
    answer_iff (move_advanceBy_of_lt hc) (fun h => move_advanceBy_of_le hc (Nat.not_lt.1 h)) nofun
  no_wrap c n := Cursor.toNat_position_add
  fault_keeps m f := move_of_fault
  stays i c more hc := getElem?_after hc more
  advanceBy_eq_times := Cursor.advanceBy_eq_advanceTimes
  advanceBy_twice := Cursor.advanceBy_add
  same i j c d t u n k hc hd hi hj := by
    obtain ⟨-, c', -, hc', -, rfl⟩ := hi.exists_cursor
    obtain ⟨-, d', -, hd', -, rfl⟩ := hj.exists_cursor
    obtain rfl : c = c' := Option.some.inj (hc.symm.trans hc')
    obtain rfl : d = d' := Option.some.inj (hd.symm.trans hd')
    exact hi.same_iff hj hc hd

/-- Two inputs with the same symbols. The first one is read in three ways, one of which goes too
far. -/
def twins : List (CursorMove Char) :=
  [.start #['a', 'b'], .start #['a', 'b'], .advance 0, .advanceBy 0 1, .advanceBy 2 2, .copy 2]

/-- The two inputs are kept apart, and the ways that stay inside lead to one cursor. -/
theorem faithful_after_twins :
    Faithful (after {} twins) twins ∧
    (∃ c d, (after {} twins).cursors[3]? = some c ∧ (after {} twins).cursors[4]? = some d ∧
      c.same d = true ∧ c.remaining = ['b']) ∧
    (∃ c d, (after {} twins).cursors[0]? = some c ∧ (after {} twins).cursors[1]? = some d ∧
      c.remaining = d.remaining ∧ c.position = d.position ∧ ¬ c.same d = true) ∧
    ((after {} twins).move (.advanceBy 4 2)).2 = .fault (.stepPastEnd 2 1 2) := by
  have hall : Faithful (after {} twins) twins := faithful_after twins
  have hfirst : Descends twins 0 0 0 := .start ⟨rfl, 0, rfl⟩
  have hsecond : Descends twins 1 1 0 := .start ⟨rfl, 0, rfl⟩
  have hadvanced : Descends twins 2 0 1 := .step (u := 2) ⟨rfl, 1, rfl⟩ rfl hfirst
  have hmoved : Descends twins 3 0 1 := .step (u := 3) ⟨rfl, 1, rfl⟩ rfl hfirst
  have hcopied : Descends twins 4 0 1 := .step (u := 5) ⟨rfl, 1, rfl⟩ rfl hadvanced
  refine ⟨hall, ⟨_, _, rfl, rfl, ?_, rfl⟩, ⟨_, _, rfl, rfl, rfl, rfl, fun hsame => ?_⟩, ?_⟩
  · exact (hall.same 3 4 _ _ 0 0 1 1 rfl rfl hmoved hcopied).2 ⟨rfl, rfl⟩
  · cases ((hall.same 0 1 _ _ 0 1 0 0 rfl rfl hfirst hsecond).1 hsame).1
  · exact (hall.advanceBy 4 _ 2 rfl).1.2 (by decide)

end CursorPool

end ParserKit
