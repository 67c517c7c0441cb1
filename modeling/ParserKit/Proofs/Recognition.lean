import ParserKit.Proofs.Contract

/-!
# Parsing expressions

A parsing expression is read with full backtracking: the second alternative of a choice is tried
at the place where the first one began, however far that one came, and an iteration goes on for as
long as its body reads something. `Peg.Reads` is this semantics, with no parsers in it.

`Peg.parser` builds the expression from the combinators, with an attempt around each part behind
which another way is open. Then no failure that reaches an alternative, an option or an iteration
counts as consumption, and the parser reads what the expression reads.

## Main definitions

* `Peg σ`: parsing expressions
* `Peg.Reads xs e i r`: on `xs` from `i` on, `e` reads up to the place `r`, or fails if there is
  none
* `Peg.parser`: the parser of an expression
* `Parser.Recognizes p e`: the results of `p` are those of `e`
* `Parser.Backtracks p`: the failures of `p` do not count as consumption

## Main results

* `Peg.Reads.unique`: an expression has at most one result
* `Peg.parser_recognizes`: the parser of an expression comes to an end with the result of the
  expression
* `Peg.parser_iff_reads`: successes, failures and tags of the parser of an expression
-/

namespace ParserKit

variable {σ : Type} {α β : Type}

/-! ## Expressions and what they read -/

/-- Parsing expressions over the symbols `σ`. -/
inductive Peg (σ : Type) where
  /-- Read nothing. -/
  | empty
  /-- Read one symbol that the predicate accepts. -/
  | satisfy (accepts : σ → Bool)
  /-- The end of the input. -/
  | eof
  /-- Read `e`, then `f`. -/
  | seq (e f : Peg σ)
  /-- Read `e`, or else `f`. -/
  | choice (e f : Peg σ)
  /-- Read `e`, or else nothing. -/
  | opt (e : Peg σ)
  /-- Read `e` again and again. -/
  | star (e : Peg σ)

namespace Peg

/-- On the symbols `xs`, the expression reads from a place up to another, or fails if that is
`none`. -/
inductive Reads (xs : Array σ) : Peg σ → Nat → Option Nat → Prop where
  | empty {i : Nat} : Reads xs .empty i (some i)
  | accept {accepts : σ → Bool} {i : Nat} {a : σ} (ha : xs[i]? = some a)
      (haccepts : accepts a = true) : Reads xs (.satisfy accepts) i (some (i + 1))
  | reject {accepts : σ → Bool} {i : Nat} (h : ∀ a, xs[i]? = some a → accepts a = false) :
      Reads xs (.satisfy accepts) i none
  | atEnd {i : Nat} (h : xs[i]? = none) : Reads xs .eof i (some i)
  | inside {i : Nat} {a : σ} (h : xs[i]? = some a) : Reads xs .eof i none
  | seq {e f : Peg σ} {i j : Nat} {r : Option Nat} (he : Reads xs e i (some j))
      (hf : Reads xs f j r) : Reads xs (.seq e f) i r
  | seqFail {e f : Peg σ} {i : Nat} (he : Reads xs e i none) : Reads xs (.seq e f) i none
  | first {e f : Peg σ} {i j : Nat} (he : Reads xs e i (some j)) :
      Reads xs (.choice e f) i (some j)
  /-- The second alternative begins where the first one began. -/
  | second {e f : Peg σ} {i : Nat} {r : Option Nat} (he : Reads xs e i none)
      (hf : Reads xs f i r) : Reads xs (.choice e f) i r
  | present {e : Peg σ} {i j : Nat} (he : Reads xs e i (some j)) : Reads xs (.opt e) i (some j)
  | absent {e : Peg σ} {i : Nat} (he : Reads xs e i none) : Reads xs (.opt e) i (some i)
  /-- An iteration ends where its body fails. -/
  | stop {e : Peg σ} {i : Nat} (he : Reads xs e i none) : Reads xs (.star e) i (some i)
  /-- An iteration ends where its body reads nothing. -/
  | idle {e : Peg σ} {i : Nat} (he : Reads xs e i (some i)) : Reads xs (.star e) i (some i)
  | next {e : Peg σ} {i j : Nat} {r : Option Nat} (he : Reads xs e i (some j)) (hij : i < j)
      (hrounds : Reads xs (.star e) j r) : Reads xs (.star e) i r

variable {xs : Array σ} {e f : Peg σ} {i : Nat} {r s : Option Nat}

/-- An expression has at most one result at each place. -/
theorem Reads.unique (h : Reads xs e i r) (h' : Reads xs e i s) : r = s := by
  induction h generalizing s with
  | empty =>
    cases h'
    rfl
  | accept ha haccepts =>
    cases h' with
    | accept => rfl
    | reject hno => simp [hno _ ha] at haccepts
  | reject hno =>
    cases h' with
    | accept ha haccepts => simp [hno _ ha] at haccepts
    | reject => rfl
  | atEnd h =>
    cases h' with
    | atEnd => rfl
    | inside h' => simp [h] at h'
  | inside h =>
    cases h' with
    | atEnd h' => simp [h] at h'
    | inside => rfl
  | seq _ _ ihe ihf =>
    cases h' with
    | seq he hf =>
      cases ihe he
      exact ihf hf
    | seqFail he => cases ihe he
  | seqFail _ ih =>
    cases h' with
    | seq he _ => cases ih he
    | seqFail => rfl
  | first _ ih =>
    cases h' with
    | first he => exact ih he
    | second he _ => cases ih he
  | second _ _ ihe ihf =>
    cases h' with
    | first he => cases ihe he
    | second _ hf => exact ihf hf
  | present _ ih =>
    cases h' with
    | present he => exact ih he
    | absent he => cases ih he
  | absent _ ih =>
    cases h' with
    | present he => cases ih he
    | absent => rfl
  | stop _ ih =>
    cases h' with
    | stop => rfl
    | idle => rfl
    | next he _ _ => cases ih he
  | idle _ ih =>
    cases h' with
    | stop => rfl
    | idle => rfl
    | next he hij _ =>
      -- the body would have read something and nothing
      cases ih he
      exact absurd hij (Nat.lt_irrefl _)
  | next _ hij _ ihe ihrounds =>
    cases h' with
    | stop he => cases ihe he
    | idle he =>
      cases ihe he
      exact absurd hij (Nat.lt_irrefl _)
    | next he _ hrounds =>
      cases ihe he
      exact ihrounds hrounds

/-- An option is a choice with nothing as its second alternative. -/
theorem Reads.opt_of_choice (h : Reads xs (.choice e .empty) i r) : Reads xs (.opt e) i r := by
  cases h with
  | first he => exact .present he
  | second he hf =>
    cases hf
    exact .absent he

/-- The parser of an expression. Values do not matter. -/
def parser : Peg σ → Parser σ Unit
  | .empty => .retn ()
  | .satisfy accepts => (Parser.satisfy accepts).map fun _ => ()
  | .eof => .eof
  | .seq e f => e.parser.seqRight f.parser
  | .choice e f => e.parser.attempt.orElse f.parser
  | .opt e => e.parser.attempt.optional.map fun _ => ()
  | .star e => e.parser.attempt.many.map fun _ => ()

/-- The result of a run from `c` meets the contract, and it is that of the expression. -/
def Agrees (e : Peg σ) (c : Cursor σ) (t : Bool) (r : Reply σ α) : Prop :=
  MessageLaw.any.Allows c t r ∧
    e.Reads c.source.symbols c.position (r.rest?.map Cursor.position)

theorem Agrees.map {c : Cursor σ} {t : Bool} {r : Reply σ α} (g : α → β) (h : e.Agrees c t r) :
    e.Agrees c t (r.map g) := by
  refine ⟨h.1.map, ?_⟩
  cases r with
  | ok a d => exact h.2
  | error m => exact h.2

end Peg

/-! ## Recognizers -/

namespace Parser

variable {p : Parser σ α} {e f : Peg σ} {c : Cursor σ}

/-- At every cursor the parser comes to an end, with the result that the expression has there. -/
def Recognizes (p : Parser σ α) (e : Peg σ) : Prop := ∀ c, ∃ t r, p.Gives c t r ∧ e.Agrees c t r

/-- No failure of the parser counts as consumption. -/
def Backtracks (p : Parser σ α) : Prop := ∀ {c t r}, p.Gives c t r → Clean t r

/-- Whatever a recognizer gives is what the expression reads. -/
theorem Recognizes.agrees {t : Bool} {r : Reply σ α} (hp : p.Recognizes e) (h : p.Gives c t r) :
    e.Agrees c t r := by
  obtain ⟨u, s, hgives, hagrees⟩ := hp c
  obtain ⟨rfl, rfl⟩ := h.unique hgives
  exact hagrees

theorem Recognizes.advances (hp : p.Recognizes e) : p.Advances := by
  intro c a d h
  exact (hp.agrees h).1

theorem backtracks_attempt (p : Parser σ α) : p.attempt.Backtracks := by
  intro c t r h
  obtain ⟨-, hr⟩ | ⟨m, -, rfl, rfl⟩ := gives_attempt_iff.1 h
  · exact hr
  · exact .inl rfl

theorem Backtracks.map (g : α → β) (hp : p.Backtracks) : (p.map g).Backtracks := by
  intro c t r h
  obtain ⟨s, hs, rfl⟩ := gives_map_iff.1 h
  exact clean_map_iff.2 (hp hs)

theorem recognizes_retn (a : α) : (retn a : Parser σ α).Recognizes .empty := by
  intro c
  exact ⟨false, .ok a c, gives_retn_iff.2 ⟨rfl, rfl⟩, rfl, .empty⟩

theorem recognizes_satisfy (accepts : σ → Bool) :
    (satisfy accepts).Recognizes (.satisfy accepts) := by
  intro c
  obtain ⟨a, hpeek, ha⟩ | hno := c.accepts_or_rejects accepts
  · obtain ⟨d, hd⟩ := Cursor.exists_advance_of_peek hpeek
    refine ⟨true, .ok a d, (gives_satisfy_of_accepts hpeek ha hd).2 ⟨rfl, rfl⟩,
      Cursor.before_of_advance hd, ?_⟩
    rw [Cursor.peek_eq_getElem?] at hpeek
    simp only [Reply.rest?, Option.map_some, (Cursor.advance_eq_ok_iff.1 hd).2]
    exact .accept hpeek ha
  · refine ⟨false, _, (gives_satisfy_of_rejects hno).2 ⟨rfl, rfl⟩, trivial, ?_⟩
    rw [Cursor.peek_eq_getElem?] at hno
    exact .reject hno

theorem recognizes_eof : (eof : Parser σ Unit).Recognizes .eof := by
  intro c
  refine ⟨false, _, gives_eof_iff.2 ⟨rfl, rfl⟩, ?_⟩
  cases hpeek : c.peek with
  | none =>
    have hend : c.isAtEnd = true := Cursor.isAtEnd_iff.2 (Cursor.peek_eq_none_iff.1 hpeek)
    rw [if_pos hend]
    rw [Cursor.peek_eq_getElem?] at hpeek
    exact ⟨rfl, .atEnd hpeek⟩
  | some a =>
    have hend : ¬ c.isAtEnd = true := by
      rw [Cursor.isAtEnd_iff, ← Cursor.peek_eq_none_iff, hpeek]
      nofun
    rw [if_neg hend]
    rw [Cursor.peek_eq_getElem?] at hpeek
    exact ⟨trivial, .inside hpeek⟩

theorem Recognizes.map (g : α → β) (hp : p.Recognizes e) : (p.map g).Recognizes e := by
  intro c
  obtain ⟨t, r, hgives, hagrees⟩ := hp c
  exact ⟨t, r.map g, gives_map_iff.2 ⟨r, hgives, rfl⟩, hagrees.map g⟩

/-- An attempt reads what its parser reads: a failure no longer counts as consumption, and the
expression fails in either case. -/
theorem Recognizes.attempt (hp : p.Recognizes e) : p.attempt.Recognizes e := by
  intro c
  obtain ⟨t, r, hgives, hagrees⟩ := hp c
  match t, r, hgives, hagrees with
  | false, r, hgives, hagrees =>
    exact ⟨false, r, gives_attempt_iff.2 (.inl ⟨hgives, .inl rfl⟩), hagrees⟩
  | true, .ok a d, hgives, hagrees =>
    exact ⟨true, .ok a d, gives_attempt_iff.2 (.inl ⟨hgives, .inr rfl⟩), hagrees⟩
  | true, .error m, hgives, hagrees =>
    exact ⟨false, .error m, gives_attempt_iff.2 (.inr ⟨m, hgives, rfl, rfl⟩), trivial, hagrees.2⟩

/-- Two recognizers one after the other read a sequence, both in the same source. -/
theorem Recognizes.seqRight {q : Parser σ β} (hp : p.Recognizes e) (hq : q.Recognizes f) :
    (p.seqRight q).Recognizes (.seq e f) := by
  intro c
  rw [seqRight_eq_bind]
  obtain ⟨t, s, hgives, hallows, hreads⟩ := hp c
  match t, s, hgives, hallows, hreads with
  | t, .error m, hgives, _, hreads =>
    exact ⟨t, .error m, gives_bind_iff.2 (.inr (.inr ⟨m, hgives, rfl⟩)), trivial, .seqFail hreads⟩
  | false, .ok a d, hgives, hallows, hreads =>
    obtain rfl : d = c := hallows
    obtain ⟨u, r, hgives', hallows', hreads'⟩ := hq d
    exact ⟨u, r, gives_bind_iff.2 (.inl ⟨a, d, hgives, hgives'⟩), hallows', .seq hreads hreads'⟩
  | true, .ok a d, hgives, hallows, hreads =>
    have hcd : c.Before d := hallows
    obtain ⟨u, r, hgives', hallows', hreads'⟩ := hq d
    rw [hcd.1] at hreads'
    exact ⟨true, r, gives_bind_iff.2 (.inr (.inl ⟨a, d, u, hgives, hgives', rfl⟩)),
      hallows'.behind hcd, .seq hreads hreads'⟩

/-- An alternation whose first parser backtracks tries the second one after every failure. -/
theorem Recognizes.orElse {q : Parser σ α} (hp : p.Recognizes e) (hback : p.Backtracks)
    (hq : q.Recognizes f) : (p.orElse q).Recognizes (.choice e f) := by
  intro c
  obtain ⟨t, r, hgives, hallows, hreads⟩ := hp c
  cases r with
  | ok a d =>
    exact ⟨t, .ok a d, gives_orElse_iff.2 (.inl ⟨hgives, .inr rfl⟩), hallows, .first hreads⟩
  | error m =>
    obtain rfl : t = false := (hback hgives).of_error
    obtain ⟨u, s, hgives', hallows', hreads'⟩ := hq c
    rcases final_or_error u s with hf | ⟨n, rfl, rfl⟩
    · exact ⟨u, s, gives_orElse_iff.2 (.inr (.inl ⟨m, hgives, hgives', hf⟩)), hallows',
        .second hreads hreads'⟩
    · exact ⟨false, _, gives_orElse_iff.2 (.inr (.inr ⟨m, n, hgives, hgives', rfl, rfl⟩)), trivial,
        .second hreads hreads'⟩

theorem Recognizes.optional (hp : p.Recognizes e) (hback : p.Backtracks) :
    p.optional.Recognizes (.opt e) := by
  intro c
  obtain ⟨t, r, hgives, hallows, hreads⟩ :=
    (hp.map some).orElse (hback.map some) (recognizes_retn none) c
  exact ⟨t, r, hgives, hallows, hreads.opt_of_choice⟩

/-- The rounds of a parser that backtracks are those of the iteration. A round that goes on uses up
symbols, so there is a last one. -/
theorem Recognizes.exists_repeats (hp : p.Recognizes e) (hback : p.Backtracks) (c : Cursor σ)
    (vs : List α) : ∃ t r n, p.Repeats c vs t r n ∧ (Peg.star e).Agrees c t r := by
  induction hleft : c.left using Nat.strongRecOn generalizing c vs with
  | ind left ih =>
    obtain ⟨t, s, hgives, hallows, hreads⟩ := hp c
    match t, s, hgives, hallows, hreads with
    | false, .error m, hgives, _, hreads =>
      exact ⟨false, .ok vs c, 0, .stop hgives, rfl, .stop hreads⟩
    | false, .ok a d, hgives, hallows, hreads =>
      obtain rfl : d = c := hallows
      exact ⟨false, .ok vs d, 0, .stop hgives, rfl, .idle hreads⟩
    | true, .error m, hgives, _, _ =>
      -- such a failure would be the result of the repetition; a parser that backtracks has none
      cases (hback hgives).of_error
    | true, .ok a d, hgives, hallows, hreads =>
      have hcd : c.Before d := hallows
      obtain ⟨u, r, n, hrounds, hallows', hreads'⟩ :=
        ih d.left (hleft ▸ hcd.left_lt) d (vs ++ [a]) rfl
      rw [hcd.1] at hreads'
      exact ⟨true, r, n + 1, .next hgives hrounds, hallows'.behind hcd,
        .next hreads hcd.2 hreads'⟩

theorem Recognizes.many (hp : p.Recognizes e) (hback : p.Backtracks) :
    p.many.Recognizes (.star e) := by
  intro c
  obtain ⟨t, r, n, hrounds, hagrees⟩ := hp.exists_repeats hback c []
  rw [many_eq_repeatBehind]
  exact ⟨t, r, hp.advances.gives_repeatBehind_iff.2 ⟨n, hrounds⟩, hagrees⟩

end Parser

/-! ## The parser of an expression -/

namespace Peg

/-- The parser of an expression recognizes it. -/
theorem parser_recognizes (e : Peg σ) : e.parser.Recognizes e := by
  induction e with
  | empty => exact Parser.recognizes_retn ()
  | satisfy accepts => exact (Parser.recognizes_satisfy accepts).map _
  | eof => exact Parser.recognizes_eof
  | seq e f he hf => exact he.seqRight hf
  | choice e f he hf => exact he.attempt.orElse (Parser.backtracks_attempt _) hf
  | opt e he => exact (he.attempt.optional (Parser.backtracks_attempt _)).map _
  | star e he => exact (he.attempt.many (Parser.backtracks_attempt _)).map _

/-- The parser of an expression succeeds with the rest at `j` iff the expression reads up to `j`, it
fails iff the expression fails, and its successes are consumed iff they stand further along. -/
theorem parser_iff_reads (e : Peg σ) (c : Cursor σ) :
    (∀ j, (∃ o rest, e.parser.run c = pure o ∧ o.takeReply = pure (.ok () rest) ∧
        rest.source = c.source ∧ rest.position = j) ↔
      e.Reads c.source.symbols c.position (some j)) ∧
    ((∃ o m, e.parser.run c = pure o ∧ o.takeReply = pure (.error m)) ↔
      e.Reads c.source.symbols c.position none) ∧
    (∀ o rest, e.parser.run c = pure o → o.takeReply = pure (.ok () rest) →
      (o.isConsumed = true ↔ c.position < rest.position)) := by
  have hrec := e.parser_recognizes
  refine ⟨fun j => ⟨?_, fun hreads => ?_⟩, ⟨?_, fun hreads => ?_⟩, ?_⟩
  · rintro ⟨o, rest, hrun, hreply, -, rfl⟩
    exact (hrec.agrees ⟨o, hrun, rfl, hreply⟩).2
  · -- the parser ends with some result, and the expression has only one
    obtain ⟨t, r, ⟨o, hrun, -, hreply⟩, hallows, hreads'⟩ := hrec c
    cases r with
    | ok a rest =>
      cases hreads.unique hreads'
      exact ⟨o, rest, hrun, hreply, hallows.source_eq, rfl⟩
    | error m => cases hreads.unique hreads'
  · rintro ⟨o, m, hrun, hreply⟩
    exact (hrec.agrees ⟨o, hrun, rfl, hreply⟩).2
  · obtain ⟨t, r, ⟨o, hrun, -, hreply⟩, -, hreads'⟩ := hrec c
    cases r with
    | ok a rest => cases hreads.unique hreads'
    | error m => exact ⟨o, m, hrun, hreply⟩
  · intro o rest hrun hreply
    have hallows := (hrec.agrees ⟨o, hrun, rfl, hreply⟩).1
    exact hallows.consumed_iff

/-- The expression `(ab / a)*`. Its first alternative often fails after the `a`. -/
def wordStar : Peg Char :=
  .star (.choice (.seq (.satisfy (· == 'a')) (.satisfy (· == 'b'))) (.satisfy (· == 'a')))

/-- The parser of `(ab / a)*` reads `aab`, as the expression does. -/
theorem wordStar_iff_reads :
    wordStar.Reads #['a', 'a', 'b', 'c'] 0 (some 3) ∧
    (∃ o rest, wordStar.parser.run (.start 0 #['a', 'a', 'b', 'c']) = pure o ∧
      o.takeReply = pure (.ok () rest) ∧ rest.position = 3 ∧ o.isConsumed = true) := by
  obtain ⟨hreads, -, htag⟩ := parser_iff_reads wordStar (.start 0 #['a', 'a', 'b', 'c'])
  exact ⟨(hreads 3).1 ⟨_, _, rfl, rfl, rfl, rfl⟩,
    _, _, rfl, rfl, rfl, (htag _ _ rfl rfl).2 (by decide)⟩

end Peg

end ParserKit
