import ParserKit.Proofs.Parser.Greedy

/-!
# Repetition behind values, and with separators

A repetition that needs a first item does not run one that may be empty: it enters the same loop
with the value of that item in the accumulator. The loop only puts further values behind those that
it is given, so it is the same to begin without values and to put the first one in front of the
result. Hence all repetitions can be written with the one that may be empty, and to drop the values
at the end is the same as to drop each of them at once. These are equations between parsers: on
both sides the tag, the reply, and the stage at which a run halts are the same, for items that keep
to no contract as well, and for items that succeed without consumption and are run twice at one
place.

With separators the item of the loop is a separator together with the item behind it, and a success
is at a place where this pair consumes nothing. So a separator that consumed input is not left to
the parser behind, nor is it passed over: the next item is behind it, or the whole parse fails after
consumption.

## Main results

* `Parser.repeatLoop_append`: values that the loop is given stand in front of those that it finds
* `Parser.repeatBehind_append`, `Parser.many_map`: the same for repetitions, and changes of values
* `Parser.repetition_laws`: the repetitions by `many`, and what becomes of a separator
-/

namespace ParserKit.Parser

variable {σ α β γ : Type} {p : Parser σ α} {sep : Parser σ β}

/-! ## The accumulator of the loop -/

/-- The values before the loop, the last one first, stand in front of those that it finds. -/
theorem repeatLoop_append (p : Parser σ α) (bound : Nat) (reply : Deferred Id (Reply σ α))
    (found before : List α) :
    repeatLoop p bound reply (found ++ before) =
      Reply.map (before.reverse ++ ·) <$> repeatLoop p bound reply found := by
  induction bound generalizing reply found with
  | zero => rfl
  | succ bound ih =>
    simp only [repeatLoop, map_bind]
    refine bind_congr fun r => ?_
    cases r with
    | error m => rfl
    | ok a d =>
      simp only [map_bind]
      refine bind_congr fun o => ?_
      cases o with
      | consumed next => exact ih next (a :: found)
      | empty s =>
        rw [map_pure, Reply.map, ← List.cons_append, List.reverse_append]

/-- To change each value before it goes into the accumulator, or all of them at the end. -/
theorem repeatLoop_map (f : α → β) (p : Parser σ α) (bound : Nat)
    {reply : Deferred Id (Reply σ α)} {reply' : Deferred Id (Reply σ β)}
    (hreply : reply'.take = Reply.map f <$> reply.take) (found : List α) :
    repeatLoop (p.map f) bound reply' (found.map f) =
      Reply.map (List.map f) <$> repeatLoop p bound reply found := by
  induction bound generalizing reply reply' found with
  | zero => rfl
  | succ bound ih =>
    simp only [repeatLoop, hreply, map_bind, bind_map_left]
    refine bind_congr fun r => ?_
    cases r with
    | error m => rfl
    | ok a d =>
      simp only [Reply.map, map, map_bind, bind_assoc, pure_bind]
      refine bind_congr fun o => ?_
      cases o with
      | consumed next => exact ih rfl (a :: found)
      | empty s => simp only [Outcome.map, map_pure, Reply.map, List.map_reverse, List.map_cons]

/-! ## Repetitions -/

theorem repeatBehind_append (p : Parser σ α) (us vs : List α) :
    p.repeatBehind (us ++ vs) = (p.repeatBehind vs).map (us ++ ·) := by
  refine ext_run fun c => ?_
  simp only [repeatBehind, repeatFrom, map, bind_assoc]
  refine bind_congr fun o => ?_
  cases o with
  | empty s => rfl
  | consumed reply =>
    have hloop := repeatLoop_append p (c.left + 1) reply vs.reverse us.reverse
    rw [← List.reverse_append, List.reverse_reverse] at hloop
    simp only [hloop, pure_bind]
    rfl

theorem many_map (p : Parser σ α) (f : α → β) : (p.map f).many = p.many.map (List.map f) := by
  refine ext_run fun c => ?_
  simp only [many, repeatFrom, map, bind_assoc, pure_bind]
  refine bind_congr fun o => ?_
  cases o with
  | empty s => rfl
  | consumed reply =>
    have hloop : repeatLoop (p.map f) (c.left + 1) (.pending fun _ => Reply.map f <$> reply.take)
        [] = Reply.map (List.map f) <$> repeatLoop p (c.left + 1) reply [] :=
      repeatLoop_map f p (c.left + 1) rfl []
    exact congrArg (fun x => pure (Outcome.defer fun _ => x)) hloop

/-- Two changes of the value are one. -/
theorem map_map (p : Parser σ α) (f : α → β) (g : β → γ) :
    (p.map f).map g = p.map fun a => g (f a) := by
  have hreply (r : Reply σ α) : (r.map f).map g = r.map fun a => g (f a) := by cases r <;> rfl
  refine ext_run fun c => ?_
  simp only [map, bind_assoc, pure_bind]
  refine bind_congr fun o => ?_
  cases o with
  | empty r => exact congrArg (fun r => pure (Outcome.empty r)) (hreply r)
  | consumed reply =>
    have htake : Reply.map g <$> Reply.map f <$> reply.take =
        Reply.map (fun a => g (f a)) <$> reply.take := by
      rw [Functor.map_map]
      exact congrArg (· <$> reply.take) (funext hreply)
    exact congrArg (fun x => pure (Outcome.defer fun _ => x)) htake

theorem many1_eq_many (p : Parser σ α) : p.many1 = p.bind fun a => p.many.map (a :: ·) := by
  rw [many1_eq_bind]
  exact congrArg p.bind (funext fun a => repeatBehind_append p [a] [])

theorem sepBy1_eq_many (p : Parser σ α) (sep : Parser σ β) :
    p.sepBy1 sep = p.bind fun a => (sep.seqRight p).many.map (a :: ·) := by
  rw [sepBy1_eq_bind]
  exact congrArg p.bind (funext fun a => repeatBehind_append (sep.seqRight p) [a] [])

theorem skipMany_eq_many (p : Parser σ α) : p.skipMany = p.many.map fun _ => () := by
  rw [skipMany, many_map, map_map]

/-! ## Rounds -/

variable {c d e : Cursor σ} {t u : Bool} {r : Reply σ (List α)} {vs ws : List α} {a : α} {n : Nat}
  {steps : List (α × Cursor σ)}

/-- A repetition that succeeds does so where its item consumes nothing. -/
theorem Repeats.gives_empty (h : p.Repeats c vs t (.ok ws e) n) : ∃ s, p.Gives e false s := by
  generalize hr : (Reply.ok ws e : Reply σ (List α)) = r at h
  induction h with
  | stop hgives =>
    cases hr
    exact ⟨_, hgives⟩
  | fail => cases hr
  | next _ _ ih => exact ih hr

/-- The values that a repetition begins with are the first of those that it gives. -/
theorem Repeats.isPrefix (h : p.Repeats c vs t (.ok ws e) n) : vs <+: ws := by
  rw [← List.append_nil vs] at h
  obtain ⟨s, -, hs⟩ := (repeats_append_iff vs []).1 h
  cases s with
  | error m => cases hs
  | ok us d =>
    cases hs
    exact List.prefix_append vs us

/-- Rounds that begin with a chain go along it. -/
theorem Repeats.behind_chain (h : p.Repeats c vs t r n) (hchain : p.Chain c steps e) :
    ∃ u k, p.Repeats e (vs ++ steps.map Prod.fst) u r k ∧ (u = true → t = true) := by
  induction hchain generalizing vs t n with
  | nil c =>
    rw [List.map_nil, List.append_nil]
    exact ⟨t, n, h, id⟩
  | cons head tail ih =>
    cases h with
    | stop hgives => cases (hgives.unique head).1
    | fail hgives => cases (hgives.unique head).2
    | next hgives rounds =>
      cases (hgives.unique head).2
      obtain ⟨u, k, hrounds, -⟩ := ih rounds
      rw [List.append_assoc] at hrounds
      exact ⟨u, k, hrounds, fun _ => rfl⟩

/-! ## Separators -/

/-- From `c` on there are items with separators between them, with the values `vs`, up to `e`. -/
def Items (p : Parser σ α) (sep : Parser σ β) (c : Cursor σ) (vs : List α) (e : Cursor σ) : Prop :=
  ∃ u a d steps, p.Gives c u (.ok a d) ∧ (sep.seqRight p).Chain d steps e ∧
    vs = a :: steps.map Prod.fst

/-- What follows behind the first item are rounds of a separator and an item. -/
theorem exists_repeats_of_sepBy1 (hfirst : p.Gives c u (.ok a d))
    (h : (p.sepBy1 sep).Gives c t r) :
    ∃ v n, (sep.seqRight p).Repeats d [a] v r n ∧ (v = true → t = true) := by
  rw [sepBy1_eq_bind, gives_bind_iff] at h
  obtain ⟨a', d', hgives, hrest⟩ | ⟨a', d', v, hgives, hrest, rfl⟩ | ⟨m, hgives, rfl⟩ := h
  · cases (hgives.unique hfirst).2
    obtain ⟨n, -, hrounds⟩ := gives_repeatBehind_iff.1 hrest
    exact ⟨t, n, hrounds, id⟩
  · cases (hgives.unique hfirst).2
    obtain ⟨n, -, hrounds⟩ := gives_repeatBehind_iff.1 hrest
    exact ⟨v, n, hrounds, fun _ => rfl⟩
  · cases (hgives.unique hfirst).2

/-- A success is at a place where a separator with an item behind it consumes nothing. -/
theorem gives_empty_of_sepBy1 (h : (p.sepBy1 sep).Gives c t (.ok ws e)) :
    ∃ s, (sep.seqRight p).Gives e false s := by
  rw [sepBy1_eq_bind, gives_bind_iff] at h
  obtain ⟨a, d, -, hrest⟩ | ⟨a, d, v, -, hrest, -⟩ | ⟨m, -, hm⟩ := h
  · obtain ⟨n, -, hrounds⟩ := gives_repeatBehind_iff.1 hrest
    exact hrounds.gives_empty
  · obtain ⟨n, -, hrounds⟩ := gives_repeatBehind_iff.1 hrest
    exact hrounds.gives_empty
  · cases hm

/-- A sequence consumes nothing only where its first part consumes nothing. -/
theorem run_ne_consumed_of_seqRight {s : Reply σ α} (h : (sep.seqRight p).Gives e false s)
    (reply : Deferred Id (Reply σ β)) : sep.run e ≠ pure (.consumed reply) := by
  intro hrun
  have hseq := gives_empty_iff.1 h
  simp only [seqRight, hrun, pure_bind, Outcome.andThen] at hseq
  cases Run.pure_eq_pure.1 hseq

/-- Behind a separator that consumed input there is an item, whose value is among those of the parse
if it succeeds; or the parse fails after consumption. -/
theorem item_or_error_of_sep {s : Reply σ β} (hitems : p.Items sep c vs e)
    (hsep : sep.Gives e true s) (h : (p.sepBy1 sep).Gives c t r) :
    (∃ b d v a e', s = .ok b d ∧ p.Gives d v (.ok a e') ∧
      ∀ ws f, r = .ok ws f → vs ++ [a] <+: ws) ∨
    t = true ∧ ∃ m, r = .error m := by
  obtain ⟨u, a, d, steps, hfirst, hchain, rfl⟩ := hitems
  obtain ⟨v, n, hrounds, hv⟩ := exists_repeats_of_sepBy1 hfirst h
  obtain ⟨w, k, hrounds, hw⟩ := hrounds.behind_chain hchain
  cases hrounds with
  | stop hgives =>
    -- the separator consumed input, and so does what begins with it
    rw [seqRight_eq_bind, gives_bind_iff] at hgives
    obtain ⟨b, d, hempty, -⟩ | ⟨b, d, v, -, -, htag⟩ | ⟨m, hempty, -⟩ := hgives
    · cases (hempty.unique hsep).1
    · cases htag
    · cases (hempty.unique hsep).1
  | fail hgives => exact .inr ⟨hv (hw rfl), _, rfl⟩
  | next hgives rounds =>
    rw [seqRight_eq_bind, gives_bind_iff] at hgives
    obtain ⟨b, d, hempty, -⟩ | ⟨b, d, v, hb, hitem, -⟩ | ⟨m, -, hm⟩ := hgives
    · cases (hempty.unique hsep).1
    · obtain ⟨-, rfl⟩ := hsep.unique hb
      refine .inl ⟨b, d, v, _, _, rfl, hitem, ?_⟩
      rintro ws f rfl
      exact rounds.isPrefix
    · cases hm

/-- If all runs of items and separators end, and a separator with an item behind it advances, then
the parse of the whole ends. -/
theorem ends_sepBy1 (hp : ∀ c, p.Ends c) (hsep : ∀ c, sep.Ends c)
    (ha : (sep.seqRight p).Advances) (c : Cursor σ) : (p.sepBy1 sep).Ends c := by
  have hround (d : Cursor σ) : (sep.seqRight p).Ends d := (hsep d).bind fun _ => hp _
  rw [sepBy1_eq_bind]
  exact (hp c).bind fun _ => ha.ends_repeatBehind ⟨hround _, fun e _ => hround e⟩ _

/-- Each repetition is the one that `many` gives: one that needs a first item runs it and puts its
value in front, one with separators repeats a separator and an item, and one without values drops
them. A parse of items with separators that succeeds does so where a separator with an item behind
it consumes nothing. Where a separator consumed input, an item is behind it and counts, or the parse
fails after consumption; and the parse comes to an end if its parts do and advance. -/
theorem repetition_laws (p : Parser σ α) (sep : Parser σ β) :
    p.many1 = (p.bind fun a => p.many.map (a :: ·)) ∧
    p.sepBy1 sep = (p.bind fun a => (sep.seqRight p).many.map (a :: ·)) ∧
    p.sepBy sep = (p.sepBy1 sep).orElse (retn []) ∧
    p.skipMany = (p.many.map fun _ => ()) ∧
    (∀ c t ws e, (p.sepBy1 sep).Gives c t (.ok ws e) →
      (∃ s, (sep.seqRight p).Gives e false s) ∧
        ∀ reply, sep.run e ≠ pure (.consumed reply)) ∧
    (∀ c t r vs e s, p.Items sep c vs e → sep.Gives e true s → (p.sepBy1 sep).Gives c t r →
      (∃ b d v a e', s = .ok b d ∧ p.Gives d v (.ok a e') ∧
        ∀ ws f, r = .ok ws f → vs ++ [a] <+: ws) ∨
      t = true ∧ ∃ m, r = .error m) ∧
    ((∀ c, p.Ends c) → (∀ c, sep.Ends c) → (sep.seqRight p).Advances →
      ∀ c, (p.sepBy1 sep).Ends c) := by
  refine ⟨p.many1_eq_many, p.sepBy1_eq_many sep, rfl, p.skipMany_eq_many, ?_, ?_, ends_sepBy1⟩
  · intro c t ws e h
    obtain ⟨s, hs⟩ := gives_empty_of_sepBy1 h
    exact ⟨⟨s, hs⟩, run_ne_consumed_of_seqRight hs⟩
  · intro c t r vs e s hitems hsep h
    exact item_or_error_of_sep hitems hsep h

/-- An `a`, or a dash that is not in the input. -/
def dashed : Parser Char Char := (satisfy (· == 'a')).orElse (retn '-')

/-- A comma. -/
def comma : Parser Char Char := satisfy (· == ',')

theorem comma_seqRight_dashed_advances : (comma.seqRight dashed).Advances := by
  have hdashed : MessageLaw.any.Keeps dashed :=
    MessageLaw.Keeps.orElse (MessageLaw.keeps_satisfy _) (MessageLaw.keeps_retn '-')
  have hboth : MessageLaw.any.Keeps (comma.bind fun _ => dashed) :=
    MessageLaw.Keeps.bind (MessageLaw.keeps_satisfy _) fun _ => hdashed
  exact fun c a d h => hboth h

/-- Items that consume nothing count where a comma is before them, and the parse goes on up to the
place where there is no comma. -/
theorem repetition_laws_of_commas :
    (∃ e, (dashed.sepBy1 comma).Gives (.start 0 #['a', ',', ',', 'b']) true
        (.ok ['a', '-', '-'] e) ∧
      e.position = 3 ∧ (∃ s, (comma.seqRight dashed).Gives e false s) ∧
      ∃ x, ['a'] ++ [x] <+: ['a', '-', '-']) ∧
    ∀ c, (dashed.sepBy1 comma).Ends c := by
  obtain ⟨-, -, -, -, hplace, hsep, hends⟩ := repetition_laws dashed comma
  have hgives : (dashed.sepBy1 comma).Gives (.start 0 #['a', ',', ',', 'b']) true
      (.ok ['a', '-', '-'] _) := ⟨_, rfl, rfl, rfl⟩
  have hitems : dashed.Items comma (.start 0 #['a', ',', ',', 'b']) ['a'] _ :=
    ⟨true, 'a', _, [], ⟨_, rfl, rfl, rfl⟩, .nil _, rfl⟩
  refine ⟨⟨_, hgives, rfl, (hplace _ _ _ _ hgives).1, ?_⟩, ?_⟩
  · obtain ⟨b, d, v, x, e, -, -, hnext⟩ | ⟨-, m, hm⟩ :=
      hsep _ _ _ _ _ _ hitems ⟨_, rfl, rfl, rfl⟩ hgives
    · exact ⟨x, hnext _ _ rfl⟩
    · cases hm
  · exact hends (fun c => (ends_satisfy _ c).orElse (ends_retn '-' c)) (ends_satisfy _)
      comma_seqRight_dashed_advances

end ParserKit.Parser
