import ParserKit.Proofs.Grammar.Forms
import ParserKit.Proofs.Parser.Rounds

/-!
# Transport along grammars

A statement about all grammars, or about all pairs of grammars that differ in where they are
wrapped, says that a relation between parsers is kept by every combinator. `Compatible` lists what
has to be kept, with one clause for each combinator that is not made from others, and
`Compatible.toParser` is the one induction over grammars: the parsers of two grammars are related
as soon as their rules are. Systems of rules follow by induction on the depth of calls.

The relation may look at one parser only. Then the two grammars are the same, and the statement is
that a property of parsers is kept by every combinator.

## Main definitions

* `Wrapper`: the ways to wrap a grammar that leave its values alone
* `Grammar.Rewrapped before after g h`: `g` and `h` differ in wrappers only
* `Compatible A before after R`: the combinators keep the relation `R` between parsers

## Main results

* `Compatible.toParser`: related rules give related grammars
* `Compatible.call`, `Compatible.toParser_call`: the rules of two systems are related, at each depth
-/

namespace ParserKit

variable {σ : Type} {ρ : Type → Type} {α β : Type}

/-! ## Wrappers -/

/-- A way to wrap a grammar that leaves its values alone. -/
inductive Wrapper where
  /-- Fail without consumption. -/
  | attempt
  /-- Name what is expected. -/
  | label (name : String)

namespace Wrapper

/-- A grammar in a wrapper. -/
def wrap : Wrapper → Grammar σ ρ α → Grammar σ ρ α
  | .attempt, g => .attempt g
  | .label name, g => .label name g

/-- A parser in a wrapper. -/
def wrapParser : Wrapper → Parser σ α → Parser σ α
  | .attempt, p => p.attempt
  | .label name, p => p.label name

theorem toParser_wrap (env : {α : Type} → ρ α → Parser σ α) (w : Wrapper) (g : Grammar σ ρ α) :
    (w.wrap g).toParser env = w.wrapParser (g.toParser env) := by
  cases w <;> rfl

theorem within_of_wrap {A : Form → Prop} {w : Wrapper} {g : Grammar σ ρ α}
    (h : (w.wrap g).Within A) : g.Within A := by
  cases w with
  | attempt => exact h.2
  | label name => exact h

end Wrapper

/-- The grammars differ in wrappers only: the first may have more of those in `before`, and the
second more of those in `after`, at any place and any number of times. -/
inductive Grammar.Rewrapped (before after : Wrapper → Prop) :
    {α : Type} → Grammar σ ρ α → Grammar σ ρ α → Prop where
  | retn {α : Type} (a : α) : Rewrapped before after (.retn a) (.retn a)
  | retnWith {α : Type} (make : Unit → α) :
      Rewrapped before after (.retnWith make) (.retnWith make)
  | fail {α : Type} : Rewrapped before after (.fail : Grammar σ ρ α) .fail
  | satisfy (accepts : σ → Bool) : Rewrapped before after (.satisfy accepts) (.satisfy accepts)
  | eof : Rewrapped before after .eof .eof
  | scan (m : Matcher σ) : Rewrapped before after (.scan m) (.scan m)
  | raw {α : Type} (p : Parser σ α) : Rewrapped before after (.raw p) (.raw p)
  | bind {α β : Type} {p p' : Grammar σ ρ α} {k k' : α → Grammar σ ρ β}
      (hp : Rewrapped before after p p') (hk : ∀ a, Rewrapped before after (k a) (k' a)) :
      Rewrapped before after (.bind p k) (.bind p' k')
  | map {α β : Type} (f : α → β) {p p' : Grammar σ ρ α} (hp : Rewrapped before after p p') :
      Rewrapped before after (.map f p) (.map f p')
  | seqRight {α β : Type} {p p' : Grammar σ ρ α} {q q' : Grammar σ ρ β}
      (hp : Rewrapped before after p p') (hq : Rewrapped before after q q') :
      Rewrapped before after (.seqRight p q) (.seqRight p' q')
  | seqLeft {α β : Type} {p p' : Grammar σ ρ α} {q q' : Grammar σ ρ β}
      (hp : Rewrapped before after p p') (hq : Rewrapped before after q q') :
      Rewrapped before after (.seqLeft p q) (.seqLeft p' q')
  | both {α β : Type} {p p' : Grammar σ ρ α} {q q' : Grammar σ ρ β}
      (hp : Rewrapped before after p p') (hq : Rewrapped before after q q') :
      Rewrapped before after (.both p q) (.both p' q')
  | orElse {α : Type} {p p' q q' : Grammar σ ρ α}
      (hp : Rewrapped before after p p') (hq : Rewrapped before after q q') :
      Rewrapped before after (.orElse p q) (.orElse p' q')
  | attempt {α : Type} {p p' : Grammar σ ρ α} (hp : Rewrapped before after p p') :
      Rewrapped before after (.attempt p) (.attempt p')
  | label {α : Type} (name : String) {p p' : Grammar σ ρ α}
      (hp : Rewrapped before after p p') :
      Rewrapped before after (.label name p) (.label name p')
  | many {α : Type} {p p' : Grammar σ ρ α} (hp : Rewrapped before after p p') :
      Rewrapped before after (.many p) (.many p')
  | many1 {α : Type} {p p' : Grammar σ ρ α} (hp : Rewrapped before after p p') :
      Rewrapped before after (.many1 p) (.many1 p')
  | sepBy1 {α β : Type} {p p' : Grammar σ ρ α} {sep sep' : Grammar σ ρ β}
      (hp : Rewrapped before after p p') (hsep : Rewrapped before after sep sep') :
      Rewrapped before after (.sepBy1 p sep) (.sepBy1 p' sep')
  | delay {α : Type} {make make' : Unit → Grammar σ ρ α}
      (h : Rewrapped before after (make ()) (make' ())) :
      Rewrapped before after (.delay make) (.delay make')
  | ref {α : Type} (r : ρ α) : Rewrapped before after (.ref r) (.ref r)
  /-- The first grammar has a wrapper that the second has not. -/
  | removed {α : Type} {w : Wrapper} (hw : before w) {p p' : Grammar σ ρ α}
      (hp : Rewrapped before after p p') : Rewrapped before after (w.wrap p) p'
  /-- The second grammar has a wrapper that the first has not. -/
  | added {α : Type} {w : Wrapper} (hw : after w) {p p' : Grammar σ ρ α}
      (hp : Rewrapped before after p p') : Rewrapped before after p (w.wrap p')

theorem Grammar.Rewrapped.refl {before after : Wrapper → Prop} (g : Grammar σ ρ α) :
    Rewrapped before after g g := by
  induction g with
  | retn a => exact .retn a
  | retnWith make => exact .retnWith make
  | fail => exact .fail
  | satisfy accepts => exact .satisfy accepts
  | eof => exact .eof
  | scan m => exact .scan m
  | raw p => exact .raw p
  | bind p k hp hk => exact .bind hp hk
  | map f p hp => exact .map f hp
  | seqRight p q hp hq => exact .seqRight hp hq
  | seqLeft p q hp hq => exact .seqLeft hp hq
  | both p q hp hq => exact .both hp hq
  | orElse p q hp hq => exact .orElse hp hq
  | attempt p hp => exact .attempt hp
  | label name p hp => exact .label name hp
  | many p hp => exact .many hp
  | many1 p hp => exact .many1 hp
  | sepBy1 p sep hp hsep => exact .sepBy1 hp hsep
  | delay make h => exact .delay (h ())
  | ref r => exact .ref r

/-- What two references find differs in wrappers only. -/
inductive Definition.Rewrapped (before after : Wrapper → Prop) :
    Definition (Grammar σ ρ α) → Definition (Grammar σ ρ α) → Prop where
  | unassigned : Rewrapped before after .unassigned .unassigned
  | dropped : Rewrapped before after .dropped .dropped
  | known {g g' : Grammar σ ρ α} (h : Grammar.Rewrapped before after g g') :
      Rewrapped before after (.known g) (.known g')

/-- The definitions of two systems of rules differ in wrappers only. -/
structure Rules.Rewrapped (before after : Wrapper → Prop) (rules rules' : Rules σ ρ) : Prop where
  count_eq : rules'.count = rules.count
  find : ∀ {α : Type} (r : ρ α),
    Definition.Rewrapped before after (rules.find r) (rules'.find r)

theorem Rules.Rewrapped.refl {before after : Wrapper → Prop} (rules : Rules σ ρ) :
    Rewrapped before after rules rules where
  count_eq := rfl
  find r := by
    cases rules.find r with
    | unassigned => exact .unassigned
    | dropped => exact .dropped
    | known g => exact .known (.refl g)

/-! ## Relations that the combinators keep -/

/-- The combinators keep the relation `R` between parsers; the forms singled out have to do so
only if `A` allows them. A wrapper of `before` may be put around the first parser alone, and one
of `after` around the second. -/
structure Compatible (A : Form → Prop) (before after : Wrapper → Prop)
    (R : {α : Type} → Parser σ α → Parser σ α → Prop) : Prop where
  retn : ∀ {α : Type} (a : α), R (.retn a) (.retn a)
  fail : ∀ {α : Type}, R (.fail : Parser σ α) .fail
  satisfy : ∀ accepts : σ → Bool, R (.satisfy accepts) (.satisfy accepts)
  eof : R .eof .eof
  scan : A .scan → ∀ m : Matcher σ, R (.scan m) (.scan m)
  raw : A .raw → ∀ {α : Type} (p : Parser σ α), R p p
  diverge : ∀ {α : Type}, R (.diverge : Parser σ α) .diverge
  bind : ∀ {α β : Type} {p p' : Parser σ α} {k k' : α → Parser σ β},
    R p p' → (∀ a, R (k a) (k' a)) → R (p.bind k) (p'.bind k')
  map : ∀ {α β : Type} (f : α → β) {p p' : Parser σ α}, R p p' → R (p.map f) (p'.map f)
  orElse : ∀ {α : Type} {p p' q q' : Parser σ α},
    R p p' → R q q' → R (p.orElse q) (p'.orElse q')
  attempt : A .attempt → ∀ {α : Type} {p p' : Parser σ α}, R p p' → R p.attempt p'.attempt
  label : ∀ {α : Type} (name : String) {p p' : Parser σ α},
    R p p' → R (p.label name) (p'.label name)
  repeatBehind : ∀ {α : Type} (vs : List α) {p p' : Parser σ α},
    R p p' → R (p.repeatBehind vs) (p'.repeatBehind vs)
  removed : ∀ {w : Wrapper}, before w → ∀ {α : Type} {p p' : Parser σ α},
    R p p' → R (w.wrapParser p) p'
  added : ∀ {w : Wrapper}, after w → ∀ {α : Type} {p p' : Parser σ α},
    R p p' → R p (w.wrapParser p')

namespace Compatible

variable {A : Form → Prop} {before after : Wrapper → Prop}
  {R : {α : Type} → Parser σ α → Parser σ α → Prop}

/-- Where fewer forms are allowed there is less to keep. -/
theorem mono {B : Form → Prop} (hR : Compatible A before after R) (h : ∀ form, B form → A form) :
    Compatible B before after R :=
  { hR with
    scan := fun hB => hR.scan (h _ hB)
    raw := fun hB => hR.raw (h _ hB)
    attempt := fun hB => hR.attempt (h _ hB) }

/-- Related rules give related grammars. Combinators that are made from others are related by the
equations that say so. -/
theorem toParser (hR : Compatible A before after R) {env env' : {α : Type} → ρ α → Parser σ α}
    (henv : ∀ {α : Type} (r : ρ α), R (env r) (env' r)) {g g' : Grammar σ ρ α}
    (h : Grammar.Rewrapped before after g g') (hg : g.Within A) :
    R (g.toParser env) (g'.toParser env') := by
  induction h with
  | retn a => exact hR.retn a
  | retnWith make => exact hR.retn (make ())
  | fail => exact hR.fail
  | satisfy accepts => exact hR.satisfy accepts
  | eof => exact hR.eof
  | scan m => exact hR.scan hg m
  | raw p =>
    -- a parser made by other means is allowed, or it is the one without an end
    rcases hg with hA | rfl
    · exact hR.raw hA p
    · exact hR.diverge
  | bind _ _ hp hk => exact hR.bind (hp hg.1) fun a => hk a (hg.2 a)
  | map f _ hp => exact hR.map f (hp hg)
  | seqRight _ _ hp hq =>
    simp only [Grammar.toParser, Parser.seqRight_eq_bind]
    exact hR.bind (hp hg.1) fun _ => hq hg.2
  | seqLeft _ _ hp hq =>
    simp only [Grammar.toParser, Parser.seqLeft_eq_bind]
    exact hR.bind (hp hg.1) fun _ => hR.map _ (hq hg.2)
  | both _ _ hp hq =>
    simp only [Grammar.toParser, Parser.both_eq_bind]
    exact hR.bind (hp hg.1) fun _ => hR.map _ (hq hg.2)
  | orElse _ _ hp hq => exact hR.orElse (hp hg.1) (hq hg.2)
  | attempt _ hp => exact hR.attempt hg.1 (hp hg.2)
  | label name _ hp => exact hR.label name (hp hg)
  | many _ hp =>
    simp only [Grammar.toParser, Parser.many_eq_repeatBehind]
    exact hR.repeatBehind [] (hp hg)
  | many1 _ hp =>
    simp only [Grammar.toParser, Parser.many1_eq_bind]
    exact hR.bind (hp hg) fun a => hR.repeatBehind [a] (hp hg)
  | sepBy1 _ _ hp hsep =>
    simp only [Grammar.toParser, Parser.sepBy1_eq_bind]
    refine hR.bind (hp hg.1) fun a => hR.repeatBehind [a] ?_
    exact hR.bind (hsep hg.2) fun _ => hp hg.1
  | delay _ h => exact h hg
  | ref r => exact henv r
  | removed hw _ hp =>
    rw [Wrapper.toParser_wrap]
    exact hR.removed hw (hp (Wrapper.within_of_wrap hg))
  | added hw _ hp =>
    rw [Wrapper.toParser_wrap]
    exact hR.added hw (hp hg)

/-- The rules of two systems are related at each depth of calls, if faults are. -/
theorem call (hR : Compatible A before after R)
    (faults : ∀ {α : Type} (fault : Cursor σ → Fault),
      R (⟨fun c => Run.fault (fault c)⟩ : Parser σ α) ⟨fun c => Run.fault (fault c)⟩)
    {rules rules' : Rules σ ρ} (h : Rules.Rewrapped before after rules rules')
    (hrules : rules.Within A) (depth : Nat) (r : ρ α) :
    R (rules.call depth r) (rules'.call depth r) := by
  induction depth generalizing α with
  | zero => exact hR.diverge
  | succ depth ih =>
    have hfind := h.find r
    have hknown := hrules r
    unfold Rules.call
    -- both calls look at what their reference finds: take these apart, not the references
    generalize rules.find r = x at hfind hknown
    generalize rules'.find r = y at hfind
    cases hfind with
    | unassigned => exact faults fun c => .unassigned c.position
    | dropped => exact faults fun c => .dropped c.position
    | known hg => exact hR.toParser (fun r => ih r) hg (hknown _ rfl)

/-- Grammars over related systems of rules are related, at each depth of calls. -/
theorem toParser_call (hR : Compatible A before after R)
    (faults : ∀ {α : Type} (fault : Cursor σ → Fault),
      R (⟨fun c => Run.fault (fault c)⟩ : Parser σ α) ⟨fun c => Run.fault (fault c)⟩)
    {rules rules' : Rules σ ρ} (h : Rules.Rewrapped before after rules rules')
    (hrules : rules.Within A) {g g' : Grammar σ ρ α}
    (hgg : Grammar.Rewrapped before after g g') (hg : g.Within A) (depth : Nat) :
    R (g.toParser fun r => rules.call depth r) (g'.toParser fun r => rules'.call depth r) :=
  hR.toParser (fun r => hR.call faults h hrules depth r) hgg hg

end Compatible

end ParserKit
