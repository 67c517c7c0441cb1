import Mathlib.Data.List.Forall2
import ParserKit.Proofs.Parser.Rounds

/-!
# What a parser reads

A printed text is read back piece by piece. `Parser.Reads p t r a` says that wherever the symbols
left are `t` and then `r`, the parser `p` reads exactly `t` and gives `a`. The symbols `r` behind
are part of the statement, since a repetition goes on for as long as it can: it reads `t` only if
it stops before `r`. `Parser.Rejects p r` says that `p` fails before `r` and consumes nothing, so
that the next alternative is tried.

There is one lemma for each combinator, and none of them mentions cursors.

## Main definitions

* `Parser.Reads p t r a`, `Parser.Rejects p r`
* `Parser.Begins p starts`: `p` rejects all symbols but those in `starts`
* `Sequence P xs t`, `Separated S P xs t`: the text `t` is made up of texts for the values `xs`, one
  after the other or with separators between
* `Parser.Alternates item sep P S F f b`: an item and a separator do not read into each other

## Main results

* `Parser.Reads.bind`, `Parser.Rejects.orElse_reads`, …: how the combinators read
* `Parser.reads_choice`: a choice is made by the first symbol
* `Parser.reads_repeatBehind`: a repetition reads a sequence of texts
* `Parser.Alternates.reads_sepBy`: and with separators between them
-/

namespace ParserKit

variable {σ α β γ : Type}

/-- The symbols that are left behind the first one. -/
theorem Cursor.remaining_of_advance {c d : Cursor σ} {a : σ} {r : List σ}
    (h : c.remaining = a :: r) (hd : c.advance = .ok d) : d.remaining = r := by
  obtain ⟨hs, hp⟩ := Cursor.advance_eq_ok_iff.1 hd
  rw [← d.drop_eq, hs, hp, ← List.drop_drop, c.drop_eq, h]
  rfl

namespace Parser

variable {p q : Parser σ α} {t u r : List σ} {a : α} {b : β}

/-- Where `t` and then `r` are left, the parser reads `t` and gives `a`. -/
def Reads (p : Parser σ α) (t r : List σ) (a : α) : Prop :=
  ∀ c : Cursor σ, c.remaining = t ++ r →
    ∃ d, d.source = c.source ∧ d.remaining = r ∧ p.Gives c (!t.isEmpty) (.ok a d)

/-- Where `r` is left, the parser fails and consumes nothing. -/
def Rejects (p : Parser σ α) (r : List σ) : Prop :=
  ∀ c : Cursor σ, c.remaining = r → ∃ m, p.Gives c false (.error m)

/-! ## Leaves -/

/-- Nothing is read where a value is there already. -/
theorem reads_retn (a : α) (r : List σ) : (retn a).Reads [] r a := by
  intro c hc
  exact ⟨c, rfl, hc, gives_retn_iff.2 ⟨rfl, rfl⟩⟩

/-- A symbol is read if it is accepted. -/
theorem reads_satisfy (accepts : σ → Bool) {x : σ} (h : accepts x = true) (r : List σ) :
    (satisfy accepts).Reads [x] r x := by
  intro c hc
  have hpeek : c.peek = some x := by simp [Cursor.peek, hc]
  obtain ⟨d, hd⟩ := Cursor.exists_advance_of_peek hpeek
  exact ⟨d, (Cursor.advance_eq_ok_iff.1 hd).1, Cursor.remaining_of_advance hc hd,
    (gives_satisfy_of_accepts hpeek h hd).2 ⟨rfl, rfl⟩⟩

/-- Anything else is rejected, and so is the end. -/
theorem rejects_satisfy {accepts : σ → Bool} (h : ∀ x ∈ r.head?, accepts x = false) :
    (satisfy accepts).Rejects r := by
  intro c hc
  refine ⟨_, (gives_satisfy_of_rejects fun x hx => h x ?_).2 ⟨rfl, rfl⟩⟩
  rw [← hc]
  exact hx

theorem reads_eof : (eof : Parser σ Unit).Reads [] [] () := by
  intro c hc
  have hend : c.isAtEnd = true := by rw [Cursor.isAtEnd, hc]; rfl
  exact ⟨c, rfl, hc, gives_eof_iff.2 ⟨rfl, (if_pos hend).symm⟩⟩

/-! ## Sequencing -/

/-- What is read stays the same when the value is changed. -/
theorem Reads.map (f : α → β) (h : p.Reads t r a) : (p.map f).Reads t r (f a) := by
  intro c hc
  obtain ⟨d, hs, hd, hgives⟩ := h c hc
  exact ⟨d, hs, hd, gives_map_iff.2 ⟨_, hgives, rfl⟩⟩

/-- The second parser reads what the first one leaves. -/
theorem Reads.bind {k : α → Parser σ β} (h : p.Reads t (u ++ r) a) (hk : (k a).Reads u r b) :
    (p.bind k).Reads (t ++ u) r b := by
  intro c hc
  rw [List.append_assoc] at hc
  obtain ⟨d, hs, hd, hgives⟩ := h c hc
  obtain ⟨e, hs', he, hgives'⟩ := hk d hd
  refine ⟨e, hs'.trans hs, he, gives_bind_iff.2 ?_⟩
  -- the tag is that of the second parser only where the first one read nothing
  cases t with
  | nil => exact .inl ⟨a, d, hgives, hgives'⟩
  | cons x t => exact .inr (.inl ⟨a, d, _, hgives, hgives', rfl⟩)

/-- Two parsers read one text after the other. -/
theorem Reads.seqRight {q : Parser σ β} (h : p.Reads t (u ++ r) a) (hq : q.Reads u r b) :
    (p.seqRight q).Reads (t ++ u) r b :=
  seqRight_eq_bind p q ▸ h.bind hq

theorem Reads.seqLeft {q : Parser σ β} (h : p.Reads t (u ++ r) a) (hq : q.Reads u r b) :
    (p.seqLeft q).Reads (t ++ u) r a :=
  seqLeft_eq_bind p q ▸ h.bind (hq.map fun _ => a)

theorem Reads.both {q : Parser σ β} (h : p.Reads t (u ++ r) a) (hq : q.Reads u r b) :
    (p.both q).Reads (t ++ u) r (a, b) :=
  both_eq_bind p q ▸ h.bind (hq.map fun b => (a, b))

/-- A parser that rejects does so whatever is done with its value. -/
theorem Rejects.map (f : α → β) (h : p.Rejects r) : (p.map f).Rejects r := by
  intro c hc
  obtain ⟨m, hgives⟩ := h c hc
  exact ⟨m, gives_map_iff.2 ⟨_, hgives, rfl⟩⟩

/-- A sequence rejects what its first part rejects. -/
theorem Rejects.bind {k : α → Parser σ β} (h : p.Rejects r) : (p.bind k).Rejects r := by
  intro c hc
  obtain ⟨m, hgives⟩ := h c hc
  exact ⟨m, gives_bind_iff.2 (.inr (.inr ⟨m, hgives, rfl⟩))⟩

/-- A sequence also rejects where its first parser reads nothing and the second one rejects. -/
theorem Reads.bind_rejects {k : α → Parser σ β} (h : p.Reads [] r a) (hk : (k a).Rejects r) :
    (p.bind k).Rejects r := by
  intro c hc
  obtain ⟨d, -, hd, hgives⟩ := h c hc
  obtain ⟨m, hgives'⟩ := hk d hd
  exact ⟨m, gives_bind_iff.2 (.inl ⟨a, d, hgives, hgives'⟩)⟩

theorem Reads.both_rejects {q : Parser σ β} (h : p.Reads [] r a) (hq : q.Rejects r) :
    (p.both q).Rejects r :=
  both_eq_bind p q ▸ h.bind_rejects (hq.map fun b => (a, b))

theorem Rejects.many1 (h : p.Rejects r) : p.many1.Rejects r := many1_eq_bind p ▸ h.bind

/-! ## Alternation -/

/-- The first alternative is enough. -/
theorem Reads.orElse (h : p.Reads t r a) (q : Parser σ α) : (p.orElse q).Reads t r a := by
  intro c hc
  obtain ⟨d, hs, hd, hgives⟩ := h c hc
  exact ⟨d, hs, hd, gives_orElse_iff.2 (.inl ⟨hgives, .inr rfl⟩)⟩

/-- The second one is run if the first one rejects. -/
theorem Rejects.orElse_reads (h : p.Rejects (t ++ r)) (hq : q.Reads t r a) :
    (p.orElse q).Reads t r a := by
  intro c hc
  obtain ⟨m, hfails⟩ := h c hc
  obtain ⟨d, hs, hd, hgives⟩ := hq c hc
  exact ⟨d, hs, hd, gives_orElse_iff.2 (.inr (.inl ⟨m, hfails, hgives, .inr rfl⟩))⟩

/-- Alternatives reject what both of them reject. -/
theorem Rejects.orElse (h : p.Rejects r) (hq : q.Rejects r) : (p.orElse q).Rejects r := by
  intro c hc
  obtain ⟨m, hgives⟩ := h c hc
  obtain ⟨k, hgives'⟩ := hq c hc
  exact ⟨_, gives_orElse_iff.2 (.inr (.inr ⟨m, k, hgives, hgives', rfl, rfl⟩))⟩

/-- An option reads what its parser reads. -/
theorem Reads.optional (h : p.Reads t r a) : p.optional.Reads t r (some a) :=
  (h.map some).orElse _

/-- It reads nothing where its parser rejects. -/
theorem Rejects.optional (h : p.Rejects r) : p.optional.Reads [] r none :=
  (h.map some).orElse_reads (reads_retn none r)

/-- A label changes no success. -/
theorem Reads.label (name : String) (h : p.Reads t r a) : (p.label name).Reads t r a := by
  intro c hc
  obtain ⟨d, hs, hd, hgives⟩ := h c hc
  exact ⟨d, hs, hd, gives_label_iff.2 (.inl ⟨hgives, .inr rfl⟩)⟩

theorem Rejects.label (name : String) (h : p.Rejects r) : (p.label name).Rejects r := by
  intro c hc
  obtain ⟨m, hgives⟩ := h c hc
  exact ⟨_, gives_label_iff.2 (.inr ⟨m, hgives, rfl, rfl⟩)⟩

/-! ## Choice by the first symbol -/

/-- The parser rejects where the next symbol is not one of `starts`. -/
def Begins (p : Parser σ α) (starts : σ → Bool) : Prop :=
  ∀ x r, starts x = false → p.Rejects (x :: r)

/-- A parser for one symbol rejects all symbols that it does not accept. -/
theorem begins_satisfy (accepts : σ → Bool) : (satisfy accepts).Begins accepts := by
  intro x r hx
  refine rejects_satisfy fun y hy => ?_
  cases hy
  exact hx

/-- What a parser begins with is what it begins with, whatever follows. -/
theorem Begins.map (f : α → β) {starts : σ → Bool} (h : p.Begins starts) :
    (p.map f).Begins starts :=
  fun x r hx => (h x r hx).map f

theorem Begins.bind {k : α → Parser σ β} {starts : σ → Bool} (h : p.Begins starts) :
    (p.bind k).Begins starts :=
  fun x r hx => (h x r hx).bind

theorem Begins.seqRight {starts : σ → Bool} (h : p.Begins starts) (q : Parser σ β) :
    (p.seqRight q).Begins starts :=
  seqRight_eq_bind p q ▸ h.bind

theorem Begins.seqLeft {starts : σ → Bool} (h : p.Begins starts) (q : Parser σ β) :
    (p.seqLeft q).Begins starts :=
  seqLeft_eq_bind p q ▸ h.bind

theorem Begins.both {starts : σ → Bool} (h : p.Begins starts) (q : Parser σ β) :
    (p.both q).Begins starts :=
  both_eq_bind p q ▸ h.bind

theorem Begins.label (name : String) {starts : σ → Bool} (h : p.Begins starts) :
    (p.label name).Begins starts :=
  fun x r hx => (h x r hx).label name

/-- Alternatives begin with what one of them begins with. -/
theorem Begins.orElse {starts starts' : σ → Bool} (h : p.Begins starts) (hq : q.Begins starts') :
    (p.orElse q).Begins fun x => starts x || starts' x := by
  intro x r hx
  obtain ⟨hp, hq'⟩ := Bool.or_eq_false_iff.1 hx
  exact (h x r hp).orElse (hq x r hq')

/-- Alternatives reject a symbol that none of them begins with. -/
theorem rejects_of_begins {starts : List (σ → Bool)} {ps : List (Parser σ α)} {x : σ}
    (hps : List.Forall₂ (fun f p => Begins p f) starts ps) (hx : ∀ f ∈ starts, f x = false) :
    ∀ p ∈ ps, p.Rejects (x :: r) := by
  induction hps with
  | nil => nofun
  | cons hp _ ih =>
    obtain ⟨hf, hx⟩ := List.forall_mem_cons.1 hx
    exact List.forall_mem_cons.2 ⟨hp x r hf, ih hx⟩

theorem rejects_foldl_orElse {ps : List (Parser σ α)} (hp : p.Rejects r)
    (hps : ∀ q ∈ ps, q.Rejects r) : (ps.foldl Parser.orElse p).Rejects r := by
  induction ps generalizing p with
  | nil => exact hp
  | cons q ps ih =>
    obtain ⟨hq, hps⟩ := List.forall_mem_cons.1 hps
    exact ih (hp.orElse hq) hps

/-- A choice rejects what all of its alternatives reject. -/
theorem rejects_choice {ps : List (Parser σ α)} (h : ∀ p ∈ ps, p.Rejects r) :
    (choice ps).Rejects r := by
  cases ps with
  | nil =>
    intro c hc
    exact ⟨_, gives_fail_iff.2 ⟨rfl, rfl⟩⟩
  | cons p ps =>
    obtain ⟨hp, hps⟩ := List.forall_mem_cons.1 h
    exact rejects_foldl_orElse hp hps

/-- Further alternatives are not asked. -/
theorem Reads.foldl_orElse (h : p.Reads t r a) (ps : List (Parser σ α)) :
    (ps.foldl Parser.orElse p).Reads t r a := by
  induction ps generalizing p with
  | nil => exact h
  | cons q ps ih => exact ih (h.orElse q)

/-- A choice reads what one of its alternatives reads, if all alternatives before it reject. -/
theorem Reads.choice {before : List (Parser σ α)} (h : p.Reads t r a)
    (hbefore : ∀ q ∈ before, q.Rejects (t ++ r)) (after : List (Parser σ α)) :
    (choice (before ++ p :: after)).Reads t r a := by
  cases before with
  | nil => exact h.foldl_orElse after
  | cons q before =>
    have hrejects : (before.foldl Parser.orElse q).Rejects (t ++ r) := by
      obtain ⟨hq, hbefore⟩ := List.forall_mem_cons.1 hbefore
      exact rejects_foldl_orElse hq hbefore
    show ((before ++ p :: after).foldl Parser.orElse q).Reads t r a
    rw [List.foldl_append]
    exact (hrejects.orElse_reads h).foldl_orElse after

/-- A choice by the first symbol: no alternative before the one that reads begins with the symbol
that is there. -/
theorem reads_choice {starts : List (σ → Bool)} {ps : List (Parser σ α)} {x : σ}
    (hps : List.Forall₂ (fun f p => Begins p f) starts ps) (i : Nat) (hp : ps[i]? = some p)
    (hx : ∀ f ∈ starts.take i, f x = false) (h : p.Reads (x :: t) r a) :
    (choice ps).Reads (x :: t) r a := by
  obtain ⟨hi, rfl⟩ := List.getElem?_eq_some_iff.1 hp
  have hbefore : ∀ q ∈ ps.take i, q.Rejects (x :: t ++ r) :=
    rejects_of_begins (List.forall₂_take i hps) hx
  rw [← List.take_append_drop i ps, List.drop_eq_getElem_cons hi]
  exact h.choice hbefore _

end Parser

/-! ## Repetition -/

/-- The text is made up of texts for the values, one after the other. -/
inductive Sequence (P : γ → List σ → Prop) : List γ → List σ → Prop where
  /-- No values have the empty text. -/
  | nil : Sequence P [] []
  /-- The text of a value, and those of the others behind it. -/
  | cons {x : γ} {xs : List γ} {t u : List σ} (head : P x t) (tail : Sequence P xs u) :
      Sequence P (x :: xs) (t ++ u)

/-- Symbols are a text for themselves. -/
theorem sequence_singletons {P : σ → Prop} {xs : List σ} (h : ∀ x ∈ xs, P x) :
    Sequence (fun x u => P x ∧ u = [x]) xs xs := by
  induction xs with
  | nil => exact .nil
  | cons x xs ih =>
    obtain ⟨hx, hxs⟩ := List.forall_mem_cons.1 h
    exact .cons ⟨hx, rfl⟩ (ih hxs)

/-- What stands before `r` is a text of the sequence or nothing. -/
theorem Sequence.follow {P : γ → List σ → Prop} {F : List σ → Prop} {xs : List γ} {t r : List σ}
    (h : Sequence P xs t) (hF : ∀ x u s, P x u → F (u ++ s)) (hr : F r) : F (t ++ r) := by
  cases h with
  | nil => exact hr
  | cons head tail =>
    rw [List.append_assoc]
    exact hF _ _ _ head

/-- The text is made up of texts for the values, with separators between. -/
inductive Separated (S : List σ → Prop) (P : γ → List σ → Prop) : List γ → List σ → Prop where
  /-- No values have the empty text. -/
  | nil : Separated S P [] []
  /-- One value has its own text. -/
  | single {x : γ} {t : List σ} (head : P x t) : Separated S P [x] t
  /-- The text of a value, a separator, and the texts of the others. -/
  | cons {x y : γ} {xs : List γ} {t s u : List σ} (head : P x t) (sep : S s)
      (tail : Separated S P (y :: xs) u) : Separated S P (x :: y :: xs) (t ++ (s ++ u))

/-- Texts that are joined with a separator. -/
theorem separated_intercalate (s : List σ) (g : γ → List σ) (xs : List γ) :
    Separated (· = s) (fun x t => t = g x) xs (s.intercalate (xs.map g)) := by
  induction xs with
  | nil => exact .nil
  | cons x xs ih =>
    cases xs with
    | nil =>
      rw [List.map_singleton, List.intercalate_singleton]
      exact .single rfl
    | cons y xs =>
      rw [List.map_cons, List.map_cons, List.intercalate_cons_cons, List.append_assoc]
      exact .cons rfl rfl ih

/-- What is true of a text that begins with any of the items is true of the whole, or of what is
behind it if there are no items. -/
theorem Separated.follow {S : List σ → Prop} {P : γ → List σ → Prop} {F : List σ → Prop}
    {xs : List γ} {t r : List σ} (h : Separated S P xs t) (hF : ∀ x u s, P x u → F (u ++ s))
    (hr : F r) : F (t ++ r) := by
  cases h with
  | nil => exact hr
  | single head => exact hF _ _ _ head
  | cons head sep tail =>
    rw [List.append_assoc]
    exact hF _ _ _ head

/-- Items may be said less of. -/
theorem Separated.mono {S : List σ → Prop} {P Q : γ → List σ → Prop} {xs : List γ} {t : List σ}
    (h : Separated S P xs t) (hPQ : ∀ x u, P x u → Q x u) : Separated S Q xs t := by
  induction h with
  | nil => exact .nil
  | single head => exact .single (hPQ _ _ head)
  | cons head sep _ ih => exact .cons (hPQ _ _ head) sep ih

/-- The texts of the values are no longer than the whole. -/
theorem Separated.bounded {S : List σ → Prop} {P : γ → List σ → Prop} {xs : List γ} {t : List σ}
    {n : Nat} (h : Separated S P xs t) (hn : t.length ≤ n) :
    Separated S (fun x u => P x u ∧ u.length ≤ n) xs t := by
  induction h with
  | nil => exact .nil
  | single head => exact .single ⟨head, hn⟩
  | cons head sep tail ih =>
    rw [List.length_append, List.length_append] at hn
    exact .cons ⟨head, by omega⟩ sep (ih (by omega))

/-- The text of a value behind that of a separator. -/
def Behind (S : List σ → Prop) (P : γ → List σ → Prop) (x : γ) (t : List σ) : Prop :=
  ∃ s u, S s ∧ P x u ∧ t = s ++ u

/-- A separator that is not empty makes a round that is not. -/
theorem Behind.ne_nil {S : List σ → Prop} {P : γ → List σ → Prop} {x : γ} {t : List σ}
    (h : Behind S P x t) (hne : ∀ s, S s → s ≠ []) : t ≠ [] := by
  obtain ⟨s, u, hs, -, rfl⟩ := h
  exact List.append_ne_nil_of_left_ne_nil (hne s hs) u

/-- What is true of a text that begins with a separator is true of a round. -/
theorem Behind.follow {S F : List σ → Prop} {P : γ → List σ → Prop} {x : γ} {t : List σ}
    (h : Behind S P x t) (hF : ∀ s u, S s → F (s ++ u)) (r : List σ) : F (t ++ r) := by
  obtain ⟨s, u, hs, -, rfl⟩ := h
  rw [List.append_assoc]
  exact hF s _ hs

/-- All values but the first one stand behind separators. -/
theorem Separated.exists_sequence {S : List σ → Prop} {P : γ → List σ → Prop} {x : γ}
    {xs : List γ} {t : List σ} (h : Separated S P (x :: xs) t) :
    ∃ u v, P x u ∧ Sequence (Behind S P) xs v ∧ t = u ++ v := by
  induction xs generalizing x t with
  | nil =>
    cases h with
    | single head => exact ⟨t, [], head, .nil, (List.append_nil t).symm⟩
  | cons y xs ih =>
    cases h with
    | cons head sep tail =>
      obtain ⟨u, v, hy, hxs, rfl⟩ := ih tail
      refine ⟨_, _, head, .cons ⟨_, u, sep, hy, rfl⟩ hxs, ?_⟩
      rw [List.append_assoc]

namespace Parser

variable {item : Parser σ α} {sep : Parser σ β} {P : γ → List σ → Prop} {S F : List σ → Prop}
  {f : γ → α} {b : β} {xs : List γ} {t u r : List σ}

/-- Rounds over a sequence of texts, and then rounds from the cursor behind it. `F` holds of what
may stand behind a text so that the item reads the text and no more; the texts themselves may stand
there. -/
theorem exists_behind_sequence (h : Sequence P xs t) (vs : List α) (hne : ∀ x u, P x u → u ≠ [])
    (hF : ∀ x u s, P x u → F (u ++ s)) (hitem : ∀ x u s, P x u → F s → item.Reads u s (f x))
    (hr : F r) (c : Cursor σ) (hc : c.remaining = t ++ r) :
    ∃ d, d.source = c.source ∧ d.remaining = r ∧
      ∀ tag s n, item.Repeats d (vs ++ xs.map f) tag s n →
        ∃ m, m ≤ t.length + n ∧ item.Repeats c vs (!t.isEmpty || tag) s m := by
  induction h generalizing vs c with
  | nil =>
    refine ⟨c, rfl, hc, fun tag s n hrounds => ⟨n, Nat.le_add_left _ _, ?_⟩⟩
    rw [List.map_nil, List.append_nil] at hrounds
    exact hrounds
  | @cons x xs u v head tail ih =>
    rw [List.append_assoc] at hc
    obtain ⟨d, hs, hd, hgives⟩ := hitem x u (v ++ r) head (tail.follow hF hr) c hc
    obtain ⟨e, hs', he, hbehind⟩ := ih (vs ++ [f x]) d hd
    obtain ⟨a, u, rfl⟩ := List.exists_cons_of_ne_nil (hne x u head)
    refine ⟨e, hs'.trans hs, he, fun tag s n hrounds => ?_⟩
    rw [List.map_cons, List.append_cons] at hrounds
    obtain ⟨m, hm, hrounds⟩ := hbehind tag s n hrounds
    refine ⟨m + 1, ?_, .next hgives hrounds⟩
    simp only [List.cons_append, List.length_cons, List.length_append]
    omega

/-- A repetition reads a sequence of items up to what its item rejects. Each round reads a symbol,
so there are not more rounds than the loop allows. -/
theorem reads_repeatBehind (h : Sequence P xs t) (vs : List α) (hne : ∀ x u, P x u → u ≠ [])
    (hF : ∀ x u s, P x u → F (u ++ s)) (hitem : ∀ x u s, P x u → F s → item.Reads u s (f x))
    (hr : F r) (hstop : item.Rejects r) : (item.repeatBehind vs).Reads t r (vs ++ xs.map f) := by
  intro c hc
  obtain ⟨d, hs, hd, hbehind⟩ := exists_behind_sequence h vs hne hF hitem hr c hc
  obtain ⟨m, hgives⟩ := hstop d hd
  obtain ⟨n, hn, hrounds⟩ := hbehind _ _ _ (.stop hgives)
  rw [Bool.or_false] at hrounds
  refine ⟨d, hs, hd, gives_repeatBehind_iff.2 ⟨n, ?_, hrounds⟩⟩
  rw [← c.length_remaining, hc, List.length_append]
  omega

/-- A repetition reads a sequence of texts, if what the item reads does not depend on what stands
behind. -/
theorem reads_many (h : Sequence P xs t) (hne : ∀ x u, P x u → u ≠ [])
    (hitem : ∀ x u s, P x u → item.Reads u s (f x)) (hstop : item.Rejects r) :
    item.many.Reads t r (xs.map f) :=
  reads_repeatBehind (F := fun _ => True) h [] hne (fun _ _ _ _ => trivial)
    (fun x u s hx _ => hitem x u s hx) trivial hstop

/-- So does a repetition that needs a first text. -/
theorem reads_many1 {x : γ} (head : P x t) (tail : Sequence P xs u) (hne : ∀ x u, P x u → u ≠ [])
    (hitem : ∀ x u s, P x u → item.Reads u s (f x)) (hstop : item.Rejects r) :
    item.many1.Reads (t ++ u) r ((x :: xs).map f) := by
  have hrest : (item.repeatBehind [f x]).Reads u r ([f x] ++ xs.map f) :=
    reads_repeatBehind (F := fun _ => True) tail [f x] hne (fun _ _ _ _ => trivial)
      (fun y u s hy _ => hitem y u s hy) trivial hstop
  exact many1_eq_bind item ▸ (hitem x t _ head).bind hrest

/-- What a repetition with separators needs of its item and its separator. `F` holds of what may
stand behind an item. -/
structure Alternates (item : Parser σ α) (sep : Parser σ β) (P : γ → List σ → Prop)
    (S F : List σ → Prop) (f : γ → α) (b : β) : Prop where
  /-- No separator is empty. -/
  ne_nil : ∀ s, S s → s ≠ []
  /-- A separator may stand behind an item. -/
  follow : ∀ s u, S s → F (s ++ u)
  /-- An item is read up to its end. -/
  reads_item : ∀ x u s, P x u → F s → item.Reads u s (f x)
  /-- A separator is read where an item stands behind it. -/
  reads_sep : ∀ s x u v, S s → P x u → sep.Reads s (u ++ v) b

namespace Alternates

variable (halt : Alternates item sep P S F f b)
include halt

/-- A round reads a separator and the item behind it. -/
theorem reads_round {x : γ} (h : Behind S P x t) (hr : F r) :
    (sep.bind fun _ => item).Reads t r (f x) := by
  obtain ⟨s, u, hs, hx, rfl⟩ := h
  exact (halt.reads_sep s x u r hs hx).bind (halt.reads_item x u r hx hr)

/-- A repetition reads texts with separators between them, if neither an item nor a separator begins
behind them. -/
theorem reads_sepBy (h : Separated S P xs t) (hr : F r) (hsepStop : sep.Rejects r)
    (hitemStop : item.Rejects r) : (item.sepBy sep).Reads t r (xs.map f) := by
  have hbehind : ∀ x u v, Behind S P x u → F (u ++ v) := fun _ _ v hx => hx.follow halt.follow v
  cases xs with
  | nil =>
    cases h
    have hrejects : (item.sepBy1 sep).Rejects r := sepBy1_eq_bind item sep ▸ hitemStop.bind
    exact hrejects.orElse_reads (reads_retn [] r)
  | cons x xs =>
    obtain ⟨u, v, head, tail, rfl⟩ := h.exists_sequence
    have hrounds : ((sep.bind fun _ => item).repeatBehind [f x]).Reads v r ([f x] ++ xs.map f) :=
      reads_repeatBehind tail [f x] (fun _ _ hy => hy.ne_nil halt.ne_nil) hbehind
        (fun _ _ _ => halt.reads_round) hr hsepStop.bind
    have hfirst : item.Reads u (v ++ r) (f x) := halt.reads_item x u _ head (tail.follow hbehind hr)
    have hsome : (item.sepBy1 sep).Reads (u ++ v) r ((x :: xs).map f) :=
      sepBy1_eq_bind item sep ▸ hfirst.bind hrounds
    exact hsome.orElse _

end Alternates

end Parser

end ParserKit
