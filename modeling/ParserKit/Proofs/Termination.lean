import ParserKit.Proofs.Contract
import ParserKit.Proofs.Grammar.LeftCalls
import ParserKit.Proofs.Parser.Lockstep

/-!
# Grammars without left recursion come to an end

A run ends if it gives an outcome whose reply can be taken. Over rules without left recursion all
runs end, whatever is repeated: a repetition stops at the first round that consumes nothing.

Two things can go on for ever, calls and rounds. Rounds that go on use up symbols, by the contract
of outcomes. A call that is made further along in the input has fewer symbols before it, and one
that is made at the same place is a left call, because only nullable grammars succeed without
consumption; it has a smaller rank. So symbols left and rank, in this order, decrease along nested
calls. The depth of calls of a parser leaves room for as many.

## Main definitions

* `Parser.Ends p c`: at `c` the run of `p` ends, and so does its reply
* `Parser.EndsOn p c`: it ends at `c` and further along
* `Parser.SucceedsEmpty p`: somewhere `p` succeeds without consumption
* `Rules.Respected rules env`: the parsers of the references keep the contract, and succeed without
  consumption only if their rules are nullable
* `Rules.EndFrom rules env c S`: the references in `S` end at `c`, and all of them do further along

## Main results

* `Rules.nullable_of_succeedsEmpty`: only nullable grammars succeed without consumption
* `Rules.Respected.ends_toParser`: a grammar ends where the references that it begins with do
* `Rules.ends_call`: how deep calls have to be allowed to nest
* `Rules.parser_ends`: grammars over complete rules without left recursion come to an end
-/

namespace ParserKit

variable {σ : Type} {ρ : Type → Type} {α β : Type}

namespace Parser

variable {p q : Parser σ α} {c d : Cursor σ}

/-! ## Runs that end -/

/-- At `c` the run of the parser comes to an end, and so does its reply. -/
def Ends (p : Parser σ α) (c : Cursor σ) : Prop := ∃ t r, p.Gives c t r

/-- The leaves come to an end at every cursor. -/
theorem ends_retn (a : α) (c : Cursor σ) : (retn a).Ends c :=
  ⟨_, _, gives_retn_iff.2 ⟨rfl, rfl⟩⟩

theorem ends_fail (c : Cursor σ) : (fail : Parser σ α).Ends c := ⟨_, _, gives_fail_iff.2 ⟨rfl, rfl⟩⟩

theorem ends_eof (c : Cursor σ) : eof.Ends c := ⟨_, _, gives_eof_iff.2 ⟨rfl, rfl⟩⟩

theorem ends_satisfy (accepts : σ → Bool) (c : Cursor σ) : (satisfy accepts).Ends c := by
  obtain ⟨a, hpeek, ha⟩ | hno := c.accepts_or_rejects accepts
  · obtain ⟨d, hd⟩ := Cursor.exists_advance_of_peek hpeek
    exact ⟨_, _, gives_satisfy_iff.2 (.inl ⟨a, d, hpeek, ha, hd, rfl, rfl⟩)⟩
  · exact ⟨_, _, gives_satisfy_iff.2 (.inr ⟨hno, rfl, rfl⟩)⟩

/-- A search comes to an end: what is found is not longer than what is left. -/
theorem ends_scan (m : Matcher σ) (c : Cursor σ) : (scan m).Ends c := by
  cases hfind : m.find c.remaining with
  | none => exact ⟨_, _, gives_scan_iff.2 (.inr (.inr ⟨hfind, rfl, rfl⟩))⟩
  | some ys =>
    by_cases hys : ys = []
    · subst hys
      exact ⟨_, _, gives_scan_iff.2 (.inr (.inl ⟨hfind, rfl, rfl⟩))⟩
    · have hlen : ys.length ≤ c.left := c.length_remaining ▸ (m.find_isInfix hfind).length_le
      obtain ⟨d, hd⟩ := Cursor.exists_advanceBy hlen
      exact ⟨_, _, gives_scan_iff.2 (.inl ⟨ys, d, hfind, hys, hd, rfl, rfl⟩)⟩

/-- A sequence ends if the second parser ends behind each success of the first. -/
theorem Ends.bind {k : α → Parser σ β} (hp : p.Ends c)
    (hk : ∀ {t a d}, p.Gives c t (.ok a d) → (k a).Ends d) : (p.bind k).Ends c := by
  obtain ⟨t, r, hr⟩ := hp
  cases r with
  | error m => exact ⟨t, _, gives_bind_iff.2 (.inr (.inr ⟨m, hr, rfl⟩))⟩
  | ok a d =>
    obtain ⟨u, s, hs⟩ := hk hr
    cases t with
    | false => exact ⟨u, s, gives_bind_iff.2 (.inl ⟨a, d, hr, hs⟩)⟩
    | true => exact ⟨true, s, gives_bind_iff.2 (.inr (.inl ⟨a, d, u, hr, hs, rfl⟩))⟩

/-- A parser comes to an end whatever is done with its value. -/
theorem Ends.map (f : α → β) (hp : p.Ends c) : (p.map f).Ends c := by
  obtain ⟨t, r, hr⟩ := hp
  exact ⟨t, _, gives_map_iff.2 ⟨r, hr, rfl⟩⟩

/-- Alternatives come to an end if both of them do. -/
theorem Ends.orElse (hp : p.Ends c) (hq : q.Ends c) : (p.orElse q).Ends c := by
  obtain ⟨t, r, hr⟩ := hp
  obtain hf | ⟨m, rfl, rfl⟩ := final_or_error t r
  · exact ⟨t, r, gives_orElse_iff.2 (.inl ⟨hr, hf⟩)⟩
  · obtain ⟨u, s, hs⟩ := hq
    obtain hf | ⟨n, rfl, rfl⟩ := final_or_error u s
    · exact ⟨u, s, gives_orElse_iff.2 (.inr (.inl ⟨m, hr, hs, hf⟩))⟩
    · exact ⟨false, _, gives_orElse_iff.2 (.inr (.inr ⟨m, n, hr, hs, rfl, rfl⟩))⟩

/-- An attempt takes the reply, which is there as the parser has come to its end. -/
theorem Ends.attempt (hp : p.Ends c) : p.attempt.Ends c := by
  obtain ⟨t, r, hr⟩ := hp
  match t, r, hr with
  | false, r, hr => exact ⟨false, r, gives_attempt_iff.2 (.inl ⟨hr, .inl rfl⟩)⟩
  | true, .ok a d, hr => exact ⟨true, _, gives_attempt_iff.2 (.inl ⟨hr, .inr rfl⟩)⟩
  | true, .error m, hr => exact ⟨false, _, gives_attempt_iff.2 (.inr ⟨m, hr, rfl, rfl⟩)⟩

theorem Ends.label (name : String) (hp : p.Ends c) : (p.label name).Ends c := by
  obtain ⟨t, r, hr⟩ := hp
  obtain hf | ⟨m, rfl, rfl⟩ := final_or_error t r
  · exact ⟨t, r, gives_label_iff.2 (.inl ⟨hr, hf⟩)⟩
  · exact ⟨false, _, gives_label_iff.2 (.inr ⟨m, hr, rfl, rfl⟩)⟩

/-- The parser ends at `c` and further along. -/
structure EndsOn (p : Parser σ α) (c : Cursor σ) : Prop where
  here : p.Ends c
  beyond : ∀ d, c.Before d → p.Ends d

/-- What is true of all cursors further along is true of those still further. -/
theorem EndsOn.further (h : p.EndsOn c) (hcd : c.Before d) : p.EndsOn d :=
  ⟨h.beyond d hcd, fun e hde => h.beyond e (hcd.trans hde)⟩

/-- The rounds of an item that advances come to an end: one that consumes nothing is the last, and
one that consumes is followed by rounds from a place with fewer symbols left. -/
theorem Advances.exists_repeats (ha : p.Advances) (h : p.EndsOn c) (vs : List α) :
    ∃ t r n, p.Repeats c vs t r n := by
  induction hleft : c.left using Nat.strong_induction_on generalizing c vs with
  | _ left ih =>
    obtain ⟨t, s, hs⟩ := h.here
    match t, s, hs with
    | false, s, hs => exact ⟨_, _, _, .stop hs⟩
    | true, .error m, hs => exact ⟨_, _, _, .fail hs⟩
    | true, .ok a d, hs =>
      have hcd : c.Before d := ha _ _ _ hs
      have hlt : d.left < left := hleft ▸ hcd.left_lt
      obtain ⟨t, r, n, hrounds⟩ := ih d.left hlt (h.further hcd) (vs ++ [a]) rfl
      exact ⟨_, _, _, .next hs hrounds⟩

/-- A repetition comes to an end if each round uses up a symbol. -/
theorem Advances.ends_repeatBehind (ha : p.Advances) (h : p.EndsOn c) (vs : List α) :
    (p.repeatBehind vs).Ends c := by
  obtain ⟨t, r, n, hrounds⟩ := ha.exists_repeats h vs
  exact ⟨t, r, ha.gives_repeatBehind_iff.2 ⟨n, hrounds⟩⟩

/-! ## Successes without consumption -/

/-- There is an input on which the parser succeeds without consumption. -/
def SucceedsEmpty (p : Parser σ α) : Prop := ∃ c a d, p.Gives c false (.ok a d)

/-- A sequence that has read nothing has read nothing in both parts. -/
theorem SucceedsEmpty.of_bind {k : α → Parser σ β} (h : (p.bind k).SucceedsEmpty) :
    p.SucceedsEmpty ∧ ∃ a, (k a).SucceedsEmpty := by
  obtain ⟨c, b, e, h⟩ := h
  obtain ⟨a, d, hp, hk⟩ | ⟨a, d, u, -, -, ht⟩ | ⟨m, -, hr⟩ := gives_bind_iff.1 h
  · exact ⟨⟨c, a, d, hp⟩, a, d, b, e, hk⟩
  · cases ht
  · cases hr

theorem SucceedsEmpty.of_map {f : α → β} (h : (p.map f).SucceedsEmpty) : p.SucceedsEmpty := by
  obtain ⟨c, b, d, h⟩ := h
  obtain ⟨r, hr, hb⟩ := gives_map_iff.1 h
  cases r with
  | ok a e => exact ⟨c, a, e, hr⟩
  | error m => cases hb

/-- Alternatives that have read nothing have done so by one of them. -/
theorem SucceedsEmpty.of_orElse (h : (p.orElse q).SucceedsEmpty) :
    p.SucceedsEmpty ∨ q.SucceedsEmpty := by
  obtain ⟨c, a, d, h⟩ := h
  obtain ⟨hp, -⟩ | ⟨m, -, hq, -⟩ | ⟨m, n, -, -, -, hr⟩ := gives_orElse_iff.1 h
  · exact .inl ⟨c, a, d, hp⟩
  · exact .inr ⟨c, a, d, hq⟩
  · cases hr

theorem SucceedsEmpty.of_attempt (h : p.attempt.SucceedsEmpty) : p.SucceedsEmpty := by
  obtain ⟨c, a, d, h⟩ := h
  obtain ⟨hp, -⟩ | ⟨m, -, -, hr⟩ := gives_attempt_iff.1 h
  · exact ⟨c, a, d, hp⟩
  · cases hr

theorem SucceedsEmpty.of_label {name : String} (h : (p.label name).SucceedsEmpty) :
    p.SucceedsEmpty := by
  obtain ⟨c, a, d, h⟩ := h
  obtain ⟨hp, -⟩ | ⟨m, -, -, hr⟩ := gives_label_iff.1 h
  · exact ⟨c, a, d, hp⟩
  · cases hr

end Parser

namespace Rules

variable {rules : Rules σ ρ} {env : {α : Type} → ρ α → Parser σ α} {c d : Cursor σ}

/-- Only nullable grammars succeed without consumption, if this holds of the references. -/
theorem nullable_of_succeedsEmpty
    (henv : ∀ {α : Type} {r : ρ α}, (env r).SucceedsEmpty → rules.Nullable (.ref r))
    {g : Grammar σ ρ α} (hg : g.Complete rules) (h : (g.toParser env).SucceedsEmpty) :
    rules.Nullable g := by
  induction g with
  | retn a => exact .retn a
  | retnWith make => exact .retnWith make
  | fail =>
    obtain ⟨c, a, d, h⟩ := h
    cases (Parser.gives_fail_iff.1 h).2
  | satisfy accepts =>
    obtain ⟨c, a, d, h⟩ := h
    obtain ⟨-, -, -, -, -, ht, -⟩ | ⟨-, -, hr⟩ := Parser.gives_satisfy_iff.1 h
    · cases ht
    · cases hr
  | eof => exact .eof
  | scan m =>
    obtain ⟨c, ys, d, h⟩ := h
    obtain ⟨-, -, -, -, -, ht, -⟩ | ⟨hfind, -, -⟩ | ⟨-, -, hr⟩ := Parser.gives_scan_iff.1 h
    · cases ht
    · exact .scan hfind
    · cases hr
  | raw p => exact hg.elim
  | bind p k hp hk =>
    obtain ⟨h₁, a, h₂⟩ := Parser.SucceedsEmpty.of_bind h
    exact .bind (hp hg.1 h₁) (hk a (hg.2 a) h₂)
  | map f p hp => exact .map (hp hg (Parser.SucceedsEmpty.of_map h))
  | seqRight p q hp hq =>
    rw [Grammar.toParser, Parser.seqRight_eq_bind] at h
    obtain ⟨h₁, _, h₂⟩ := h.of_bind
    exact .seqRight (hp hg.1 h₁) (hq hg.2 h₂)
  | seqLeft p q hp hq =>
    rw [Grammar.toParser, Parser.seqLeft_eq_bind] at h
    obtain ⟨h₁, _, h₂⟩ := h.of_bind
    exact .seqLeft (hp hg.1 h₁) (hq hg.2 h₂.of_map)
  | both p q hp hq =>
    rw [Grammar.toParser, Parser.both_eq_bind] at h
    obtain ⟨h₁, _, h₂⟩ := h.of_bind
    exact .both (hp hg.1 h₁) (hq hg.2 h₂.of_map)
  | orElse p q hp hq =>
    rcases Parser.SucceedsEmpty.of_orElse h with h | h
    · exact .first (hp hg.1 h)
    · exact .second (hq hg.2 h)
  | attempt p hp => exact .attempt (hp hg (Parser.SucceedsEmpty.of_attempt h))
  | label name p hp => exact .label (hp hg (Parser.SucceedsEmpty.of_label h))
  | many p hp => exact .many p
  | many1 p hp =>
    rw [Grammar.toParser, Parser.many1_eq_bind] at h
    exact .many1 (hp hg h.of_bind.1)
  | sepBy1 p sep hp hsep =>
    rw [Grammar.toParser, Parser.sepBy1_eq_bind] at h
    exact .sepBy1 (hp hg.1 h.of_bind.1)
  | delay make hmake => exact .delay (hmake () hg h)
  | ref r => exact henv h

/-- The parsers of the references keep the contract, and succeed without consumption only if their
rules are nullable. -/
structure Respected (rules : Rules σ ρ) (env : {α : Type} → ρ α → Parser σ α) : Prop where
  keeps : ∀ {α : Type} (r : ρ α), MessageLaw.any.Keeps (env r)
  nullable : ∀ {α : Type} {r : ρ α}, (env r).SucceedsEmpty → rules.Nullable (.ref r)

/-- The parsers of the references in `S` end at `c`, and those of all rules end further along. -/
structure EndFrom (rules : Rules σ ρ) (env : {α : Type} → ρ α → Parser σ α) (c : Cursor σ)
    (S : Reference ρ → Prop) : Prop where
  here : ∀ x, S x → rules.Defines x → (env x.2).Ends c
  beyond : ∀ x, rules.Defines x → ∀ d, c.Before d → (env x.2).Ends d

namespace EndFrom

variable {S : Reference ρ → Prop}

/-- It is enough to look at fewer references. -/
theorem mono {T : Reference ρ → Prop} (h : rules.EndFrom env c S) (hTS : ∀ x, T x → S x) :
    rules.EndFrom env c T :=
  ⟨fun x hx => h.here x (hTS x hx), h.beyond⟩

/-- Further along it does not matter which references a grammar begins with. -/
theorem further {T : Reference ρ → Prop} (h : rules.EndFrom env c S) (hcd : c.Before d) :
    rules.EndFrom env d T :=
  ⟨fun x _ hx => h.beyond x hx d hcd, fun x hx e hde => h.beyond x hx e (hcd.trans hde)⟩

end EndFrom

namespace Respected

theorem keeps_toParser (henv : rules.Respected env) {g : Grammar σ ρ α} (hg : g.Complete rules) :
    MessageLaw.any.Keeps (g.toParser env) :=
  @Compatible.toParser _ _ _ _ _ _ _ (MessageLaw.compatible (not_not_intro rfl) fun _ => id)
    env env (fun r => henv.keeps r) _ _ (.refl g) hg.plain

theorem advances_toParser (henv : rules.Respected env) {g : Grammar σ ρ α}
    (hg : g.Complete rules) : (g.toParser env).Advances :=
  fun _ _ _ hgives => henv.keeps_toParser hg hgives

/-- A sequence ends if its second part ends further along, and at `c` if the first is nullable. -/
theorem ends_bind (henv : rules.Respected env) {p : Grammar σ ρ α} {k : α → Parser σ β}
    (hp : p.Complete rules) (hends : (p.toParser env).Ends c)
    (hhere : rules.Nullable p → ∀ a, (k a).Ends c)
    (hbeyond : ∀ a d, c.Before d → (k a).Ends d) : ((p.toParser env).bind k).Ends c := by
  refine hends.bind fun {t a d} hgives => ?_
  have hrest := henv.keeps_toParser hp hgives
  cases t with
  | false =>
    obtain rfl : d = c := hrest
    exact hhere (nullable_of_succeedsEmpty henv.nullable hp ⟨_, _, _, hgives⟩) a
  | true => exact hbeyond a d hrest

/-- A grammar ends where the references that it begins with do, if all references end further
along. -/
theorem ends_toParser (henv : rules.Respected env) {g : Grammar σ ρ α} (hg : g.Complete rules)
    (h : rules.EndFrom env c (rules.Begins · g)) : (g.toParser env).Ends c := by
  induction g generalizing c with
  | retn a => exact Parser.ends_retn a c
  | retnWith make => exact Parser.ends_retn (make ()) c
  | fail => exact Parser.ends_fail c
  | satisfy accepts => exact Parser.ends_satisfy accepts c
  | eof => exact Parser.ends_eof c
  | scan m => exact Parser.ends_scan m c
  | raw p => exact hg.elim
  | bind p k hp hk =>
    refine henv.ends_bind hg.1 (hp hg.1 (h.mono fun _ => .inl)) ?_ ?_
    · exact fun hnull a => hk a (hg.2 a) (h.mono fun _ hx => .inr ⟨hnull, a, hx⟩)
    · exact fun a d hcd => hk a (hg.2 a) (h.further hcd)
  | map f p hp => exact (hp hg h).map f
  | seqRight p q hp hq =>
    rw [Grammar.toParser, Parser.seqRight_eq_bind]
    refine henv.ends_bind hg.1 (hp hg.1 (h.mono fun _ => .inl)) ?_ ?_
    · exact fun hnull _ => hq hg.2 (h.mono fun _ hx => .inr ⟨hnull, hx⟩)
    · exact fun _ d hcd => hq hg.2 (h.further hcd)
  | seqLeft p q hp hq =>
    rw [Grammar.toParser, Parser.seqLeft_eq_bind]
    refine henv.ends_bind hg.1 (hp hg.1 (h.mono fun _ => .inl)) ?_ ?_
    · exact fun hnull _ => (hq hg.2 (h.mono fun _ hx => .inr ⟨hnull, hx⟩)).map _
    · exact fun _ d hcd => (hq hg.2 (h.further hcd)).map _
  | both p q hp hq =>
    rw [Grammar.toParser, Parser.both_eq_bind]
    refine henv.ends_bind hg.1 (hp hg.1 (h.mono fun _ => .inl)) ?_ ?_
    · exact fun hnull _ => (hq hg.2 (h.mono fun _ hx => .inr ⟨hnull, hx⟩)).map _
    · exact fun _ d hcd => (hq hg.2 (h.further hcd)).map _
  | orElse p q hp hq =>
    exact (hp hg.1 (h.mono fun _ => .inl)).orElse (hq hg.2 (h.mono fun _ => .inr))
  | attempt p hp => exact (hp hg h).attempt
  | label name p hp => exact (hp hg h).label name
  | many p hp =>
    rw [Grammar.toParser, Parser.many_eq_repeatBehind]
    have hitem : (p.toParser env).EndsOn c := ⟨hp hg h, fun d hcd => hp hg (h.further hcd)⟩
    exact (henv.advances_toParser (g := p) hg).ends_repeatBehind hitem []
  | many1 p hp =>
    rw [Grammar.toParser, Parser.many1_eq_bind]
    have hadvances := henv.advances_toParser (g := p) hg
    have hitem : (p.toParser env).EndsOn c := ⟨hp hg h, fun d hcd => hp hg (h.further hcd)⟩
    refine henv.ends_bind hg hitem.here ?_ ?_
    · exact fun _ a => hadvances.ends_repeatBehind hitem [a]
    · exact fun a d hcd => hadvances.ends_repeatBehind (hitem.further hcd) [a]
  | sepBy1 p sep hp hsep =>
    rw [Grammar.toParser, Parser.sepBy1_eq_bind]
    have hadvances := henv.advances_toParser (g := sep.seqRight p) ⟨hg.2, hg.1⟩
    have hfirst : (p.toParser env).EndsOn c :=
      ⟨hp hg.1 (h.mono fun _ => .inl), fun d hcd => hp hg.1 (h.further hcd)⟩
    have hitem {d} (hs : (sep.toParser env).Ends d) (hd : (p.toParser env).EndsOn d) :
        ((sep.toParser env).bind fun _ => p.toParser env).Ends d :=
      henv.ends_bind hg.2 hs (fun _ _ => hd.here) fun _ => hd.beyond
    have hbeyond (d) (hcd : c.Before d) :
        ((sep.toParser env).bind fun _ => p.toParser env).Ends d :=
      hitem (hsep hg.2 (h.further hcd)) (hfirst.further hcd)
    refine henv.ends_bind hg.1 hfirst.here ?_ ?_
    · -- the separator is run at `c` only if there may be nothing before it
      intro hnull a
      have hs : (sep.toParser env).Ends c := hsep hg.2 (h.mono fun _ hx => .inr ⟨hnull, hx⟩)
      exact hadvances.ends_repeatBehind ⟨hitem hs hfirst, hbeyond⟩ [a]
    · intro a d hcd
      have hon := fun e (hde : d.Before e) => hbeyond e (hcd.trans hde)
      exact hadvances.ends_repeatBehind ⟨hbeyond d hcd, hon⟩ [a]
  | delay make hmake => exact hmake () hg h
  | ref r => exact h.here ⟨_, r⟩ rfl hg

end Respected

/-! ## Calls -/

/-- A call with room for one more runs the definition with the room that is left. -/
theorem call_succ_of_known {r : ρ α} {g : Grammar σ ρ α} (h : rules.find r = .known g)
    (depth : Nat) : rules.call (depth + 1) r = g.toParser fun r' => rules.call depth r' := by
  simp only [call, h]

/-- A call that gives something has found a definition and runs it one level deeper. -/
theorem exists_of_call_gives {n : Nat} {r : ρ α} {t : Bool} {s : Reply σ α}
    (h : (rules.call n r).Gives c t s) :
    ∃ m g, n = m + 1 ∧ rules.find r = .known g ∧
      (g.toParser fun r' => rules.call m r').Gives c t s := by
  cases n with
  | zero => exact absurd h Parser.not_gives_of_throw
  | succ n =>
    cases hfind : rules.find r with
    | known g => exact ⟨n, g, rfl, rfl, call_succ_of_known hfind n ▸ h⟩
    | unassigned =>
      simp only [call, hfind] at h
      exact absurd h Parser.not_gives_of_throw
    | dropped =>
      simp only [call, hfind] at h
      exact absurd h Parser.not_gives_of_throw

/-- A rule that can succeed without reading is one of those that are found nullable, however deep
its calls go. -/
theorem nullable_of_call (hrules : rules.Complete) {n : Nat} {r : ρ α}
    (h : (rules.call n r).SucceedsEmpty) : rules.Nullable (.ref r) := by
  induction n generalizing α with
  | zero =>
    obtain ⟨c, a, d, h⟩ := h
    exact absurd h Parser.not_gives_of_throw
  | succ n ih =>
    obtain ⟨c, a, d, h⟩ := h
    obtain ⟨m, g, hm, hg, hgives⟩ := exists_of_call_gives h
    obtain rfl : n = m := Nat.succ.inj hm
    exact .ref hg (nullable_of_succeedsEmpty (fun h => ih h) (hrules r g hg) ⟨c, a, d, hgives⟩)

/-- Calls of complete rules do what the search for nullable grammars assumes of them. -/
theorem respected_call (hrules : rules.Complete) (n : Nat) :
    rules.Respected fun r => rules.call n r where
  keeps r := (MessageLaw.compatible (not_not_intro rfl) fun _ => id).call
    (fun _ _ _ _ h => absurd h Parser.not_gives_of_throw) (.refl rules) hrules.plain n r
  nullable := nullable_of_call hrules

/-- A call ends if each symbol that is left has room for one nested call of each rule, and there is
room for as many calls more as its own rule leads to definitions. -/
theorem ends_call (hrules : rules.Complete) (hcounted : rules.Counted)
    (hleft : rules.NoLeftRecursion) {n : Nat} {x : Reference ρ} (hx : rules.Defines x)
    (hn : rules.rank x + rules.count * c.left < n) : (rules.call n x.2).Ends c := by
  induction n generalizing x c with
  | zero => omega
  | succ n ih =>
    obtain ⟨g, hg⟩ := hx
    rw [call_succ_of_known hg]
    refine (respected_call hrules n).ends_toParser (hrules _ _ hg) ⟨?_, ?_⟩
    · -- at the same place the rank gets smaller
      intro y hy hdefined
      have hrank : rules.rank y < rules.rank x :=
        rank_lt_of_leftCalls hleft hcounted ⟨g, hg, hy⟩ hdefined
      exact ih hdefined (by omega)
    · -- a symbol that has been used up makes room for any rank
      intro y hdefined d hcd
      have hrank : rules.rank y < rules.count := rank_lt_count hleft hcounted hdefined
      refine ih hdefined ?_
      calc rules.rank y + rules.count * d.left
          < rules.count + rules.count * d.left := Nat.add_lt_add_right hrank _
        _ = rules.count * (d.left + 1) := by rw [Nat.mul_succ, Nat.add_comm]
        _ ≤ rules.count * c.left := Nat.mul_le_mul_left _ hcd.left_lt
        _ ≤ n := by omega

/-- The depth of calls from a cursor on is enough. -/
theorem ends_toParser_call (hrules : rules.Complete) (hcounted : rules.Counted)
    (hleft : rules.NoLeftRecursion) {g : Grammar σ ρ α} (hg : g.Complete rules) :
    (g.toParser fun r => rules.call (rules.depthFrom c) r).Ends c := by
  have hroom (x : Reference ρ) (hx : rules.Defines x) {d : Cursor σ} (hd : d.left ≤ c.left) :
      (rules.call (rules.depthFrom c) x.2).Ends d := by
    have hrank : rules.rank x < rules.count := rank_lt_count hleft hcounted hx
    have hmul : rules.count * d.left ≤ rules.count * c.left := Nat.mul_le_mul_left _ hd
    refine ends_call hrules hcounted hleft hx ?_
    rw [depthFrom, Nat.mul_succ]
    omega
  refine (respected_call hrules _).ends_toParser hg ⟨?_, ?_⟩
  · exact fun x _ hx => hroom x hx (Nat.le_refl _)
  · exact fun x hx d hcd => hroom x hx (Nat.le_of_lt hcd.left_lt)

end Rules

/-! ## More room for calls -/

/-- What a parser gives it gives with more room for calls. -/
theorem Parser.Gives.deeper {p q : Parser σ α} {c : Cursor σ} {t : Bool} {r : Reply σ α}
    (h : Link.deeper.Parsers p q) (hp : p.Gives c t r) : q.Gives c t r := by
  obtain ⟨o, ho, rfl, hr⟩ := hp
  have hruns : Link.deeper.Parses (pure o) (q.run c) := ho ▸ h rfl
  obtain ⟨o', ho', hoo⟩ := hruns.exists_of_pure
  have hreplies : Link.deeper.Runs Link.deeper.Replies (pure r) o'.takeReply :=
    hr ▸ hoo.takeReply trivial
  obtain ⟨r', hr', hrr⟩ := hreplies.exists_of_pure
  have htag : o'.isConsumed = o.isConsumed := by cases hoo <;> rfl
  have hreply : r' = r := by
    cases hrr with
    | ok a hcd => exact congrArg (Reply.ok a) hcd.symm
    | error hm => exact congrArg Reply.error hm.symm
  exact ⟨o', ho', htag, hreply ▸ hr'⟩

namespace Rules

/-- Let the rules be complete and counted, and let none of them lead back to itself by left calls.
Then from every cursor the run of a grammar comes to an end, and so does its reply. More room for
calls than a parser has would not change them. -/
theorem parser_ends (rules : Rules σ ρ) (hrules : rules.Complete) (hcounted : rules.Counted)
    (hleft : rules.NoLeftRecursion) (g : Grammar σ ρ α) (hg : g.Complete rules) (c : Cursor σ) :
    ∃ o r, (rules.parser g).run c = pure o ∧ o.takeReply = pure r ∧
      ∀ n, rules.depthFrom c ≤ n →
        (g.toParser fun r => rules.call n r).Gives c o.isConsumed r := by
  obtain ⟨t, r, hgives⟩ := ends_toParser_call hrules hcounted hleft hg (c := c)
  obtain ⟨o, ho, rfl, hr⟩ := id hgives
  refine ⟨o, r, ho, hr, fun n hn => hgives.deeper ?_⟩
  exact Link.parsers_toParser_call (not_not_intro rfl) (fun _ => trivial) (fun _ => trivial)
    hrules.plain (.inr ⟨trivial, hn⟩) hg.plain

end Rules

/-- The references to the rules of groups. -/
inductive GroupRef : Type → Type where
  /-- Any number of groups. -/
  | groups : GroupRef (List Nat)
  /-- One group, or none. -/
  | group : GroupRef Nat

/-- Groups, with the number of brackets in each. -/
def groups : Grammar Char GroupRef (List Nat) := .many (.ref .group)

/-- Groups in brackets, or nothing at all. -/
def group : Grammar Char GroupRef Nat :=
  ((Grammar.between (.chr '(') (.chr ')') (.ref .groups)).map fun ns => ns.sum + 1).orElse (.retn 0)

/-- The rules of groups. What is repeated may be nothing. -/
def groupRules : Rules Char GroupRef where
  count := 2
  find {α} r := match α, r with
    | _, .groups => .known groups
    | _, .group => .known group

/-- The rules of the example are complete, and there is one of them. -/
theorem complete_groups : groups.Complete groupRules := ⟨group, rfl⟩

theorem complete_groupRules : groupRules.Complete := by
  intro α r g h
  cases r with
  | groups =>
    cases h
    exact complete_groups
  | group =>
    cases h
    exact ⟨⟨⟨trivial, ⟨groups, rfl⟩⟩, trivial⟩, trivial⟩

theorem counted_groupRules : groupRules.Counted := by
  have hsub : groupRules.definitions ⊆ {⟨List Nat, groups⟩, ⟨Nat, group⟩} := by
    rintro ⟨α, g⟩ ⟨r, hr⟩
    cases r with
    | groups =>
      cases hr
      exact .inl rfl
    | group =>
      cases hr
      exact .inr rfl
  have hcard := Set.ncard_insert_le (⟨List Nat, groups⟩ : (α : Type) × Grammar Char GroupRef α)
    {⟨Nat, group⟩}
  rw [Set.ncard_singleton] at hcard
  exact .of_subset (Set.toFinite _) hsub hcard

/-- Groups begin with a group, but a group begins with a bracket. -/
theorem noLeftRecursion_groupRules : groupRules.NoLeftRecursion := by
  refine Rules.noLeftRecursion_of_lt
    (fun | ⟨_, .groups⟩ => 1 | ⟨_, .group⟩ => 0) ?_
  rintro ⟨α, r⟩ y ⟨g, hg, hy⟩
  cases r with
  | groups =>
    cases hg
    obtain rfl : y = ⟨Nat, .group⟩ := hy
    exact Nat.zero_lt_one
  | group =>
    cases hg
    obtain ((hopen | ⟨hnull, -⟩) | ⟨-, hclose⟩) | hnone := hy
    · exact hopen.elim
    · exact absurd (Rules.nullable_label_iff.1 hnull) (Rules.not_nullable_satisfy _)
    · exact hclose.elim
    · exact hnone.elim

/-- A group may be nothing, but runs over groups end, also where a bracket is not closed. -/
theorem ends_of_groups :
    groupRules.Nullable (.ref .group) ∧
      ∃ o r, (groupRules.parser groups).run (.start 0 #['(', '(', ')', ')', '(']) = pure o ∧
        o.takeReply = pure r := by
  obtain ⟨o, r, ho, hr, -⟩ := Rules.parser_ends groupRules complete_groupRules counted_groupRules
    noLeftRecursion_groupRules groups complete_groups (.start 0 #['(', '(', ')', ')', '('])
  exact ⟨.ref rfl (.second (.retn 0)), o, r, ho, hr⟩

end ParserKit
