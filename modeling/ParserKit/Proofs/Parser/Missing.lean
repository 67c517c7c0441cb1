import ParserKit.Proofs.Parser.Reading

/-!
# What a parser misses

What a parser reads is one half of what it does before a text; the other half is where it fails,
and what it says was missing there. `Parser.Misses p t r name` says that wherever the symbols left
are `t` and then `r`, the parser `p` reads `t` and then fails, and expects `name` before `r` and
nothing else. It consumed input if `t` is not empty.

A failure behind symbols that were read is the failure of the whole sequence, and no label changes
it. A label gives its name to what is missing at the beginning.

## Main definitions

* `Parser.Misses p t r name`

## Main results

* `Parser.Reads.bind_misses`, `Parser.Misses.label`, …: how the combinators fail
* `Parser.Alternates.misses_sepBy`: an item is missing behind a separator
* `Parser.Reads.gives`, `Parser.Misses.gives`: the cursor behind a text is determined by the text
* `Parser.Reads.exists_gives`, `Parser.Misses.exists_gives`: and it stands behind all of the text
-/

namespace ParserKit

variable {σ α β : Type}

/-! ## Cursors and the symbols left -/

namespace Cursor

variable {c d e : Cursor σ} {t r : List σ}

/-- Cursors of one source that leave the same symbols stand at the same place. -/
theorem eq_of_remaining (hs : d.source = e.source) (hr : d.remaining = e.remaining) : d = e := by
  have hleft : d.left = e.left := by rw [← length_remaining, ← length_remaining, hr]
  have hd := d.position_le
  have he := e.position_le
  rw [hs] at hd
  refine eq_of_position hs ?_
  simp only [left, length, hs] at hleft
  omega

/-- There is a cursor behind each text that is left. -/
theorem exists_behind (h : c.remaining = t ++ r) :
    ∃ d : Cursor σ, d.source = c.source ∧ d.position = c.position + t.length ∧
      d.remaining = r := by
  have hle : t.length ≤ c.left := by
    rw [← length_remaining, h, List.length_append]
    exact Nat.le_add_right _ _
  obtain ⟨d, hd⟩ := exists_advanceBy hle
  obtain ⟨hs, hp⟩ := advanceBy_eq_ok_iff.1 hd
  refine ⟨d, hs, hp, ?_⟩
  rw [← d.drop_eq, hs, hp, ← List.drop_drop, c.drop_eq, h, List.drop_left]

end Cursor

namespace Parser

variable {p : Parser σ α} {c d : Cursor σ} {t u r : List σ} {a : α} {name other : String}

/-- Reading a text that is not empty consumes input. -/
theorem not_isEmpty_of_ne_nil (h : t ≠ []) : (!t.isEmpty) = true := by simp [h]

/-- Where `t` and then `r` are left, the parser reads `t` and then fails, expecting `name`. -/
def Misses (p : Parser σ α) (t r : List σ) (name : String) : Prop :=
  ∀ c : Cursor σ, c.remaining = t ++ r →
    ∃ d, d.source = c.source ∧ d.remaining = r ∧
      p.Gives c (!t.isEmpty) (.error (.expecting d name))

/-! ## Leaves -/

/-- A predicate misses a symbol that it does not accept, or any symbol at the end. -/
theorem misses_satisfy {accepts : σ → Bool} (h : ∀ x ∈ r.head?, accepts x = false) :
    (satisfy accepts).Misses [] r predicateLabel := by
  intro c hc
  refine ⟨c, rfl, hc, (gives_satisfy_of_rejects fun x hx => h x ?_).2 ⟨rfl, rfl⟩⟩
  rw [List.nil_append] at hc
  rw [← hc]
  exact hx

/-- A parser that fails expects nothing, until it has a label. -/
theorem misses_label_fail (name : String) (r : List σ) :
    ((fail : Parser σ α).label name).Misses [] r name :=
  fun c hc => ⟨c, rfl, hc, gives_label_iff.2 (.inr ⟨_, gives_fail_iff.2 ⟨rfl, rfl⟩, rfl, rfl⟩)⟩

/-! ## Combinators -/

theorem Misses.map (f : α → β) (h : p.Misses t r name) : (p.map f).Misses t r name := by
  intro c hc
  obtain ⟨d, hs, hd, hgives⟩ := h c hc
  exact ⟨d, hs, hd, gives_map_iff.2 ⟨_, hgives, rfl⟩⟩

theorem Misses.bind {k : α → Parser σ β} (h : p.Misses t r name) : (p.bind k).Misses t r name := by
  intro c hc
  obtain ⟨d, hs, hd, hgives⟩ := h c hc
  exact ⟨d, hs, hd, gives_bind_iff.2 (.inr (.inr ⟨_, hgives, rfl⟩))⟩

/-- What the second parser misses is missing behind what the first one read. -/
theorem Reads.bind_misses {k : α → Parser σ β} (h : p.Reads t (u ++ r) a)
    (hk : (k a).Misses u r name) : (p.bind k).Misses (t ++ u) r name := by
  intro c hc
  rw [List.append_assoc] at hc
  obtain ⟨d, hs, hd, hgives⟩ := h c hc
  obtain ⟨e, hs', he, hgives'⟩ := hk d hd
  refine ⟨e, hs'.trans hs, he, gives_bind_iff.2 ?_⟩
  cases t with
  | nil => exact .inl ⟨a, d, hgives, hgives'⟩
  | cons x t => exact .inr (.inl ⟨a, d, _, hgives, hgives', rfl⟩)

theorem Misses.seqLeft {q : Parser σ β} (h : p.Misses t r name) : (p.seqLeft q).Misses t r name :=
  seqLeft_eq_bind p q ▸ h.bind

theorem Misses.both {q : Parser σ β} (h : p.Misses t r name) : (p.both q).Misses t r name :=
  both_eq_bind p q ▸ h.bind

theorem Reads.seqRight_misses {q : Parser σ β} (h : p.Reads t (u ++ r) a)
    (hq : q.Misses u r name) : (p.seqRight q).Misses (t ++ u) r name :=
  seqRight_eq_bind p q ▸ h.bind_misses hq

theorem Reads.both_misses {q : Parser σ β} (h : p.Reads t (u ++ r) a) (hq : q.Misses u r name) :
    (p.both q).Misses (t ++ u) r name :=
  both_eq_bind p q ▸ h.bind_misses (hq.map fun b => (a, b))

theorem Misses.many1 (h : p.Misses t r name) : p.many1.Misses t r name :=
  many1_eq_bind p ▸ h.bind

/-- A label gives its name to what is missing at the beginning. -/
theorem Misses.label (name : String) (h : p.Misses [] r other) :
    (p.label name).Misses [] r name := by
  intro c hc
  obtain ⟨d, hs, hd, hgives⟩ := h c hc
  exact ⟨d, hs, hd, gives_label_iff.2 (.inr ⟨_, hgives, rfl, rfl⟩)⟩

/-- Behind symbols that were read a label does not change what is missing. -/
theorem Misses.label_of_ne_nil (other : String) (h : p.Misses t r name) (ht : t ≠ []) :
    (p.label other).Misses t r name := by
  intro c hc
  obtain ⟨d, hs, hd, hgives⟩ := h c hc
  exact ⟨d, hs, hd, gives_label_iff.2 (.inl ⟨hgives, .inl (not_isEmpty_of_ne_nil ht)⟩)⟩

/-- Behind symbols that were read no alternative is tried. -/
theorem Misses.orElse_of_ne_nil (h : p.Misses t r name) (ht : t ≠ []) (q : Parser σ α) :
    (p.orElse q).Misses t r name := by
  intro c hc
  obtain ⟨d, hs, hd, hgives⟩ := h c hc
  exact ⟨d, hs, hd, gives_orElse_iff.2 (.inl ⟨hgives, .inl (not_isEmpty_of_ne_nil ht)⟩)⟩

/-- A part that has read something is no longer optional. -/
theorem Misses.optional_of_ne_nil (h : p.Misses t r name) (ht : t ≠ []) :
    p.optional.Misses t r name :=
  (h.map some).orElse_of_ne_nil ht _

/-! ## Repetition -/

section Repetition

variable {γ : Type} {item : Parser σ α} {sep : Parser σ β} {P : γ → List σ → Prop}
  {S F : List σ → Prop} {f : γ → α} {b : β} {x : γ} {xs : List γ} {s : List σ}

/-- Behind a sequence of texts, a repetition misses what its item misses after it has read
something. -/
theorem misses_repeatBehind (h : Sequence P xs t) (vs : List α) (hne : ∀ x u, P x u → u ≠ [])
    (hF : ∀ x u s, P x u → F (u ++ s)) (hitem : ∀ x u s, P x u → F s → item.Reads u s (f x))
    (hu : u ≠ []) (hr : F (u ++ r)) (hmiss : item.Misses u r name) :
    (item.repeatBehind vs).Misses (t ++ u) r name := by
  intro c hc
  rw [List.append_assoc] at hc
  obtain ⟨d, hs, hd, hbehind⟩ := exists_behind_sequence h vs hne hF hitem hr c hc
  obtain ⟨e, hs', he, hgives⟩ := hmiss d hd
  rw [not_isEmpty_of_ne_nil hu] at hgives
  obtain ⟨n, hn, hrounds⟩ := hbehind _ _ _ (.fail hgives)
  rw [Bool.or_true, ← not_isEmpty_of_ne_nil (List.append_ne_nil_of_right_ne_nil t hu)] at hrounds
  refine ⟨e, hs'.trans hs, he, gives_repeatBehind_iff.2 ⟨n, ?_, hrounds⟩⟩
  rw [← c.length_remaining, hc, List.length_append]
  omega

/-- Behind items with separators between them and one separator more, an item is missing. -/
theorem Alternates.misses_sepBy (halt : Alternates item sep P S F f b)
    (h : Separated S P (x :: xs) t) (hs : S s) (hlast : sep.Reads s r b)
    (hmiss : item.Misses [] r name) : (item.sepBy sep).Misses (t ++ s) r name := by
  have hne := halt.ne_nil s hs
  have hbehind : ∀ y w z, Behind S P y w → F (w ++ z) := fun _ _ z hy => hy.follow halt.follow z
  obtain ⟨u, v, head, tail, rfl⟩ := h.exists_sequence
  -- the last round reads the separator, and then misses the item
  have hround : (sep.bind fun _ => item).Misses (s ++ []) r name :=
    Reads.bind_misses (u := []) hlast hmiss
  rw [List.append_nil] at hround
  have hrounds : ((sep.bind fun _ => item).repeatBehind [f x]).Misses (v ++ s) r name :=
    misses_repeatBehind tail [f x] (fun _ _ hy => hy.ne_nil halt.ne_nil) hbehind
      (fun _ _ _ => halt.reads_round) hne (halt.follow s r hs) hround
  have hfirst : item.Reads u (v ++ s ++ r) (f x) := by
    refine halt.reads_item x u _ head ?_
    rw [List.append_assoc]
    exact tail.follow hbehind (halt.follow s r hs)
  have hsome : (item.sepBy1 sep).Misses (u ++ (v ++ s)) r name :=
    sepBy1_eq_bind item sep ▸ hfirst.bind_misses hrounds
  rw [List.append_assoc]
  have hread : v ++ s ≠ [] := List.append_ne_nil_of_right_ne_nil v hne
  exact hsome.orElse_of_ne_nil (List.append_ne_nil_of_right_ne_nil u hread) _

end Repetition

/-! ## At a cursor -/

theorem Reads.gives (h : p.Reads t r a) (hc : c.remaining = t ++ r) (hs : d.source = c.source)
    (hd : d.remaining = r) : p.Gives c (!t.isEmpty) (.ok a d) := by
  obtain ⟨e, hs', he, hgives⟩ := h c hc
  obtain rfl : e = d := Cursor.eq_of_remaining (hs'.trans hs.symm) (he.trans hd.symm)
  exact hgives

theorem Reads.gives_consumed (h : p.Reads t r a) (ht : t ≠ []) (hc : c.remaining = t ++ r)
    (hs : d.source = c.source) (hd : d.remaining = r) : p.Gives c true (.ok a d) :=
  not_isEmpty_of_ne_nil ht ▸ h.gives hc hs hd

theorem Misses.gives (h : p.Misses t r name) (hc : c.remaining = t ++ r) (hs : d.source = c.source)
    (hd : d.remaining = r) : p.Gives c (!t.isEmpty) (.error (.expecting d name)) := by
  obtain ⟨e, hs', he, hgives⟩ := h c hc
  obtain rfl : e = d := Cursor.eq_of_remaining (hs'.trans hs.symm) (he.trans hd.symm)
  exact hgives

theorem Misses.gives_consumed (h : p.Misses t r name) (ht : t ≠ []) (hc : c.remaining = t ++ r)
    (hs : d.source = c.source) (hd : d.remaining = r) :
    p.Gives c true (.error (.expecting d name)) :=
  not_isEmpty_of_ne_nil ht ▸ h.gives hc hs hd

theorem Reads.exists_gives (h : p.Reads t r a) (ht : t ≠ []) (hc : c.remaining = t ++ r) :
    ∃ d : Cursor σ, d.source = c.source ∧ d.position = c.position + t.length ∧
      p.Gives c true (.ok a d) := by
  obtain ⟨d, hs, hp, hr⟩ := Cursor.exists_behind hc
  exact ⟨d, hs, hp, h.gives_consumed ht hc hs hr⟩

theorem Misses.exists_gives (h : p.Misses t r name) (ht : t ≠ []) (hc : c.remaining = t ++ r) :
    ∃ d : Cursor σ, d.source = c.source ∧ d.position = c.position + t.length ∧
      p.Gives c true (.error (.expecting d name)) := by
  obtain ⟨d, hs, hp, hr⟩ := Cursor.exists_behind hc
  exact ⟨d, hs, hp, h.gives_consumed ht hc hs hr⟩

theorem Misses.not_gives_ok {consumed : Bool} (h : p.Misses t r name)
    (hc : c.remaining = t ++ r) : ¬ p.Gives c consumed (.ok a d) := by
  intro hok
  obtain ⟨e, -, -, herror⟩ := h c hc
  cases (hok.unique herror).2

/-! ## From the start of an input -/

/-- A text that is read to its end is read by a run on it. -/
theorem Reads.parseValue (h : p.Reads t [] a) (id : Nat) :
    p.parseValue (.start id t.toArray) = pure (.ok a) := by
  obtain ⟨d, -, -, hgives⟩ := h (.start id t.toArray) (List.append_nil t).symm
  exact hgives.parseValue

/-- What is missing behind the whole input is missing at its end. -/
theorem Misses.parseValue (h : p.Misses t [] name) (id : Nat) :
    p.parseValue (.start id t.toArray) = pure (.error ⟨t.length, none, .singleton name⟩) := by
  obtain ⟨d, hs, hd, hgives⟩ := h (.start id t.toArray) (List.append_nil t).symm
  have hpeek : d.peek = none := by rw [Cursor.peek, hd, List.head?_nil]
  have hlength : d.length = t.length := by rw [Cursor.length, hs, Cursor.start, List.size_toArray]
  have hmessage : Message.expecting d name = ⟨t.length, none, .singleton name⟩ := by
    rw [← hlength, ← Cursor.peek_eq_none_iff.1 hpeek, ← hpeek]
    rfl
  rw [hgives.parseValue, hmessage]
  rfl

end Parser

end ParserKit
