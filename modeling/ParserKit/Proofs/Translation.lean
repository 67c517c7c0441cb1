import ParserKit.Proofs.Contract
import ParserKit.Proofs.Cursor.Text
import ParserKit.Proofs.Laws
import ParserKit.Proofs.Parser.Lockstep

/-!
# No parser looks back

What lies before the cursor where a run begins has no part in it. On an input `u` followed by `v`,
a run that begins behind `u` is the run on `v` alone, moved: it halts for the same reason or shows
the same tag, and it has the same value or a message with the same symbol and labels, with all
positions greater by the length of `u`.

Positions enter a run in three ways: messages carry them and are merged by comparing them, faults
name them, and the text from a cursor on is cut out of the whole text at the place that an index
has for them. The first two move with the cursor; the third gives the same text.

## Main definitions

* `Cursor.behind id u c`: the place of `c` in the input `id` that has `u` before the input of `c`
* `Message.shift`, `Fault.shift`, `Reply.behind`, `Sighting.behind`: what is seen of a run, moved

## Main results

* `Cursor.advanceBy_start_append`: the beginning of an input behind another
* `Link.parsers_behind`: a run moves with its cursor
* `Rules.parser_behind`: a grammar behind some symbols is run as without them
-/

namespace ParserKit

variable {σ : Type} {ρ : Type → Type} {α β : Type}

/-! ## Moving what is seen -/

/-- The message, with `count` more symbols before its place. -/
def Message.shift (count : Nat) (m : Message σ) : Message σ :=
  { m with position := count + m.position }

/-- The fault, with `count` more symbols before each place that it names. -/
def Fault.shift (count : Nat) : Fault → Fault
  | .readAtEnd position => .readAtEnd (count + position)
  | .stepAtEnd position => .stepAtEnd (count + position)
  | .stepPastEnd steps position length => .stepPastEnd steps (count + position) (count + length)
  | .unassigned position => .unassigned (count + position)
  | .dropped position => .dropped (count + position)
  | .assignedTwice => .assignedTwice
  | .poisoned => .poisoned
  | .raised text => .raised text

/-- The halt, with `count` more symbols before each place that it names. -/
def Halt.shift (count : Nat) : Halt → Halt
  | .fault f => .fault (f.shift count)
  | .exhausted => .exhausted

/-- A result changed by `f`, or a halt moved by `count` symbols. -/
def Run.shift (count : Nat) (f : α → β) : Except Halt α → Except Halt β
  | .ok a => .ok (f a)
  | .error halt => .error (halt.shift count)

/-- The place of a cursor in the input `id`, which has the symbols `u` before those of its own. -/
def Cursor.behind (id : Nat) (u : Array σ) (c : Cursor σ) : Cursor σ where
  source := ⟨id, u ++ c.source.symbols⟩
  position := u.size + c.position
  remaining := c.remaining
  drop_eq := by
    rw [← c.drop_eq, Array.toList_append, ← Array.length_toList, List.drop_length_add_append]
  position_le := by
    rw [Array.size_append]
    exact Nat.add_le_add_left c.position_le u.size

/-- A reply of a run that began behind `u`. -/
def Reply.behind (id : Nat) (u : Array σ) : Reply σ α → Reply σ α
  | .ok value rest => .ok value (rest.behind id u)
  | .error message => .error (message.shift u.size)

/-- What is seen of an outcome that began behind `u`. -/
def Sighting.behind (id : Nat) (u : Array σ) (s : Sighting σ α) : Sighting σ α where
  consumed := s.consumed
  failedEmpty := s.failedEmpty
  reply := Run.shift u.size (Reply.behind id u) s.reply

/-! ## Cursors and messages -/

theorem Cursor.left_behind (id : Nat) (u : Array σ) (c : Cursor σ) :
    (c.behind id u).left = c.left := by
  rw [← length_remaining, ← length_remaining]
  rfl

/-- The beginning of `v` behind `u` is the place that is reached by moving over `u`. -/
theorem Cursor.advanceBy_start_append (id id' : Nat) (u v : Array σ) :
    (Cursor.start id (u ++ v)).advanceBy u.size = .ok ((Cursor.start id' v).behind id u) := by
  rw [advanceBy_eq_ok_iff]
  refine ⟨rfl, ?_⟩
  simp only [behind, start]
  omega

theorem Cursor.advanceBy_behind {id : Nat} {u : Array σ} {c d e : Cursor σ} {count : Nat}
    (hd : (c.behind id u).advanceBy count = .ok d) (he : c.advanceBy count = .ok e) :
    d = e.behind id u := by
  obtain ⟨hds, hdp⟩ := advanceBy_eq_ok_iff.1 hd
  obtain ⟨hes, hep⟩ := advanceBy_eq_ok_iff.1 he
  apply eq_of_position
  · rw [hds]
    simp only [behind, hes]
  · rw [hdp]
    simp only [behind, hep]
    omega

/-- Both messages move by the same number of symbols, so the same one is further along. -/
theorem Message.merge_shift (count : Nat) (m n : Message σ) :
    (m.shift count).merge (n.shift count) = (m.merge n).shift count := by
  have hcompare : compare (count + m.position) (count + n.position) =
      compare m.position n.position := by
    rcases Nat.lt_trichotomy m.position n.position with h | h | h
    · rw [Nat.compare_eq_lt.2 h, Nat.compare_eq_lt.2 (Nat.add_lt_add_left h count)]
    · rw [h, Nat.compare_eq_eq.2 rfl, Nat.compare_eq_eq.2 rfl]
    · rw [Nat.compare_eq_gt.2 h, Nat.compare_eq_gt.2 (Nat.add_lt_add_left h count)]
  simp only [merge, shift, hcompare]
  split <;> rfl

/-! ## Runs -/

/-- The first run begins behind `u`, where the second one has nothing. -/
def Link.behind (id : Nat) (u : Array σ) : Link σ where
  cursors c d := c = d.behind id u
  messages m n := m = n.shift u.size
  faults f g := f = g.shift u.size
  deep := True
  early := False
  peek_eq := by
    rintro c d rfl
    rfl
  on := by
    rintro c d rfl
    rfl
  withExpected := by
    rintro m n rfl label
    rfl
  relabel := by
    rintro m n rfl label
    rfl
  merge := by
    rintro m n m' n' rfl rfl
    exact Message.merge_shift u.size n n'
  unassigned := by
    rintro c d rfl
    rfl
  dropped := by
    rintro c d rfl
    rfl
  remaining_eq := by
    rintro - c d rfl
    rfl
  advanceBy := by
    rintro - c d c' d' rfl count hc' hd'
    exact Cursor.advanceBy_behind hc' hd'

section Sight

variable {id : Nat} {u : Array σ}

/-- Computations that correspond differ by the move. -/
theorem Link.Runs.eq_shift {Q : α → β → Prop} {f : β → α} {x : Exec α} {y : Exec β}
    (h : (Link.behind id u).Runs Q x y) (hf : ∀ a b, Q a b → a = f b) :
    x.run = Run.shift u.size f y.run := by
  cases h with
  | done hab => exact congrArg Except.ok (hf _ _ hab)
  | fault hfg => exact congrArg (fun f => Except.error (Halt.fault f)) hfg
  | exhausted => rfl
  | early he => exact he.elim

theorem Link.Replies.eq_behind {r s : Reply σ α} (h : (Link.behind id u).Replies r s) :
    r = s.behind id u := by
  cases h with
  | ok a hcd => exact congrArg (Reply.ok a) hcd
  | error hm => exact congrArg Reply.error hm

theorem Link.Outcomes.sight_eq_behind {o o' : Outcome Id σ α}
    (h : (Link.behind id u).Outcomes o o') : o.sight = o'.sight.behind id u := by
  have hreply : o.takeReply.run = Run.shift u.size (Reply.behind id u) o'.takeReply.run :=
    (h.takeReply trivial).eq_shift fun _ _ => Link.Replies.eq_behind
  have htag : o.isConsumed = o'.isConsumed ∧ o.failedEmpty = o'.failedEmpty := by
    cases h with
    | consumed => exact ⟨rfl, rfl⟩
    | empty hr => cases hr <;> exact ⟨rfl, rfl⟩
  rw [Outcome.sight_eq, Outcome.sight_eq, hreply, htag.1, htag.2]
  rfl

/-- What is seen of the first of two runs that correspond is what is seen of the second, moved. -/
theorem Link.Runs.sight_eq_behind {x y : Exec (Outcome Id σ α)}
    (h : (Link.behind id u).Parses x y) :
    (Outcome.sight <$> x).run =
      Run.shift u.size (Sighting.behind id u) (Outcome.sight <$> y).run := by
  have hsight : (Link.behind id u).Runs (fun s s' => s = Sighting.behind id u s')
      (Outcome.sight <$> x) (Outcome.sight <$> y) :=
    h.map fun _ _ => Link.Outcomes.sight_eq_behind
  exact hsight.eq_shift fun _ _ h => h

/-- A run moves with its cursor, at each depth of calls. -/
theorem Link.parsers_behind (id : Nat) (u : Array σ) {rules : Rules σ ρ} (hrules : rules.Plain)
    {g : Grammar σ ρ α} (hg : g.Plain) (depth : Nat) :
    (Link.behind id u).Parsers (g.toParser fun r => rules.call depth r)
      (g.toParser fun r => rules.call depth r) :=
  Link.parsers_toParser_call (not_not_intro rfl) (fun _ => trivial) (fun _ => trivial) hrules
    (.inl rfl) hg

end Sight

/-- As many symbols are left behind `u` as without `u`, so the parser has the same depth. -/
theorem Rules.sight_parser_behind {rules : Rules σ ρ} (hrules : rules.Plain) {g : Grammar σ ρ α}
    (hg : g.Plain) (id : Nat) (u : Array σ) (c : Cursor σ) :
    ((rules.parser g).sight (c.behind id u)).run =
      Run.shift u.size (Sighting.behind id u) ((rules.parser g).sight c).run := by
  have hdepth : rules.depthFrom (c.behind id u) = rules.depthFrom c := by
    rw [Rules.depthFrom, Rules.depthFrom, Cursor.left_behind]
  have hruns : (Link.behind id u).Parses ((rules.parser g).run (c.behind id u))
      ((rules.parser g).run c) := by
    simp only [Rules.parser, hdepth]
    exact Link.parsers_behind id u hrules hg _ rfl
  exact hruns.sight_eq_behind

/-- On the symbols of `u` and `v`, what is seen of a run that begins behind `u` is what is seen of a
run on `v` alone, with all positions greater by the number of symbols in `u`; where one halts so
does the other. The text that is cut out for a search is the same too. -/
theorem Rules.parser_behind (rules : Rules σ ρ) (hrules : rules.Plain) (g : Grammar σ ρ α)
    (hg : g.Plain) (id id' : Nat) (u v : Array σ) (c : Cursor σ)
    (hc : (Cursor.start id (u ++ v)).advanceBy u.size = .ok c) :
    ((rules.parser g).sight c).run =
        Run.shift u.size (Sighting.behind id u) ((rules.parser g).sight (.start id' v)).run ∧
      ∀ (w : Array Char) (d : Cursor Char),
        d.remainingText? = some (String.ofList d.remaining) ∧
          (d.behind id w).remainingText? = d.remainingText? := by
  obtain rfl : (Cursor.start id' v).behind id u = c :=
    Except.ok.inj ((Cursor.advanceBy_start_append id id' u v).symm.trans hc)
  refine ⟨Rules.sight_parser_behind hrules hg id u _, fun w d => ⟨d.remainingText?_eq, ?_⟩⟩
  rw [Cursor.remainingText?_eq, Cursor.remainingText?_eq]
  rfl

/-- A symbol that closes no bracket is met two places further on behind two symbols, and it is the
same symbol. -/
theorem behind_of_nesting :
    ∃ c m, (Cursor.start 0 (#['a', 'b'] ++ #['(', '(', 'x'])).advanceBy 2 = .ok c ∧
      ((nestingRules.parser nesting).sight c).run = .ok ⟨true, false, .ok (.error m)⟩ ∧
      m.position = 4 ∧ m.unexpected = some 'x' := by
  have hg : nesting.Plain := plain_nestingRules .nesting nesting rfl
  obtain ⟨hsight, -⟩ := Rules.parser_behind nestingRules plain_nestingRules nesting hg 0 1
    #['a', 'b'] #['(', '(', 'x'] _ rfl
  exact ⟨_, _, rfl, hsight, rfl, rfl⟩

end ParserKit
