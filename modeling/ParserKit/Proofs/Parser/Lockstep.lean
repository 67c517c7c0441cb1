import ParserKit.Proofs.Grammar.Transport

/-!
# Two runs in lock step

Many statements compare two runs: of one grammar at two places, of two grammars at one place, of
rules at two depths of calls. A `Link` says what the comparison is about: which cursors, messages
and faults of the first run go with which of the second. The runs correspond if they halt alike,
or end with the same tag and with replies that correspond.

A reply that is deferred is computed only when it is asked for. A link is *deep* if it compares
deferred replies too. One that is not compares what a run tells at once, its tag and the reply of an
empty outcome; then it is enough that the cursors have the same symbol under them, for nothing that
lies further on is looked at. An attempt takes the reply of what it runs, and a search reads all
that is left, so these two forms need a deep link.

The combinators are treated once, for an arbitrary link.

## Main definitions

* `Link σ`: what two runs are compared by
* `Link.deeper`: the same run, with more room for calls
* `Link.Runs L Q x y`: the computations `x` and `y` halt alike, or end with results related by `Q`
* `Link.Replies`, `Link.Outcomes`: replies and outcomes that correspond
* `Link.Parsers L p q`: `p` and `q` correspond from all cursors that go together

## Main results

* `Link.compatible`: every combinator keeps the correspondence
* `Link.parsers_call`: rules correspond at each depth of calls
-/

namespace ParserKit

variable {σ : Type} {ρ : Type → Type} {α β γ δ : Type}

/-- What two runs are compared by. -/
structure Link (σ : Type) where
  /-- The cursors that go together. -/
  cursors : Cursor σ → Cursor σ → Prop
  /-- The messages that go together. -/
  messages : Message σ → Message σ → Prop
  /-- The faults that go together. -/
  faults : Fault → Fault → Prop
  /-- Deferred replies are compared. -/
  deep : Prop
  /-- The first run may come to the end of its depth before the second one does. -/
  early : Prop
  peek_eq : ∀ {c d}, cursors c d → c.peek = d.peek
  on : ∀ {c d}, cursors c d → messages (.on c) (.on d)
  withExpected : ∀ {m n}, messages m n →
    ∀ label, messages (m.withExpected label) (n.withExpected label)
  relabel : ∀ {m n}, messages m n → ∀ label, messages (m.relabel label) (n.relabel label)
  merge : ∀ {m n m' n'}, messages m n → messages m' n' → messages (m.merge m') (n.merge n')
  unassigned : ∀ {c d}, cursors c d → faults (.unassigned c.position) (.unassigned d.position)
  dropped : ∀ {c d}, cursors c d → faults (.dropped c.position) (.dropped d.position)
  remaining_eq : deep → ∀ {c d}, cursors c d → c.remaining = d.remaining
  advanceBy : deep → ∀ {c d c' d'}, cursors c d → ∀ {count : Nat}, c.advanceBy count = .ok c' →
    d.advanceBy count = .ok d' → cursors c' d'

namespace Message

theorem withExpected_congr {m n : Message σ} (h : m = n) (label : String) :
    m.withExpected label = n.withExpected label := by
  rw [h]

theorem relabel_congr {m n : Message σ} (h : m = n) (label : String) :
    m.relabel label = n.relabel label := by
  rw [h]

theorem merge_congr {m n m' n' : Message σ} (h : m = n) (h' : m' = n') :
    m.merge m' = n.merge n' := by
  rw [h, h']

end Message

namespace Link

/-- The same run, with more room for calls in the second one. -/
def deeper : Link σ where
  cursors := (· = ·)
  messages := (· = ·)
  faults := (· = ·)
  deep := True
  early := True
  peek_eq h := congrArg Cursor.peek h
  on h := congrArg Message.on h
  withExpected h label := Message.withExpected_congr h label
  relabel h label := Message.relabel_congr h label
  merge h h' := Message.merge_congr h h'
  unassigned h := congrArg (fun c => Fault.unassigned c.position) h
  dropped h := congrArg (fun c => Fault.dropped c.position) h
  remaining_eq _ _ _ h := congrArg Cursor.remaining h
  advanceBy := by
    rintro - c d c' d' rfl count hc' hd'
    exact Except.ok.inj (hc'.symm.trans hd')

variable {L : Link σ}

/-! ## Computations -/

/-- The computations end with results related by `Q`, or halt alike. -/
inductive Runs (L : Link σ) (Q : α → β → Prop) : Exec α → Exec β → Prop where
  | done {a : α} {b : β} (h : Q a b) : Runs L Q (pure a) (pure b)
  | fault {f g : Fault} (h : L.faults f g) : Runs L Q (Run.fault f) (Run.fault g)
  | exhausted : Runs L Q Run.exhausted Run.exhausted
  /-- Nothing is asked of the second run. -/
  | early (h : L.early) (y : Exec β) : Runs L Q Run.exhausted y

/-- Computations that run alike may be followed by others that do, for results that belong
together. -/
theorem Runs.bind {Q : α → β → Prop} {Q' : γ → δ → Prop} {x : Exec α} {y : Exec β}
    {f : α → Exec γ} {g : β → Exec δ} (h : L.Runs Q x y)
    (hfg : ∀ a b, Q a b → L.Runs Q' (f a) (g b)) : L.Runs Q' (x >>= f) (y >>= g) := by
  cases h with
  | done hab => exact hfg _ _ hab
  | fault hf => exact .fault hf
  | exhausted => exact .exhausted
  | early he y => exact .early he _

theorem Runs.map {Q : α → β → Prop} {Q' : γ → δ → Prop} {x : Exec α} {y : Exec β} {f : α → γ}
    {g : β → δ} (h : L.Runs Q x y) (hfg : ∀ a b, Q a b → Q' (f a) (g b)) :
    L.Runs Q' (f <$> x) (g <$> y) := by
  rw [map_eq_pure_bind, map_eq_pure_bind]
  exact h.bind fun a b hab => .done (hfg a b hab)

/-- If the first computation ends so does the second. -/
theorem Runs.exists_of_pure {Q : α → β → Prop} {a : α} {y : Exec β} (h : L.Runs Q (pure a) y) :
    ∃ b, y = pure b ∧ Q a b := by
  generalize hx : (pure a : Exec α) = x at h
  cases h with
  | done h => exact ⟨_, rfl, Run.pure_eq_pure.1 hx ▸ h⟩
  | fault | exhausted | early => cases hx

/-- If the second computation has no end, neither has the first. -/
theorem Runs.eq_exhausted {Q : α → β → Prop} {x : Exec α} {y : Exec β} (h : L.Runs Q x y)
    (hy : y = Run.exhausted) : x = Run.exhausted := by
  cases h with
  | done => cases hy
  | fault => cases hy
  | exhausted => rfl
  | early => rfl

/-- A computation runs like itself. -/
theorem Runs.refl {Q : α → α → Prop} (hfaults : ∀ f, L.faults f f) (hQ : ∀ a, Q a a)
    (x : Exec α) : L.Runs Q x x := by
  cases x with
  | ok a => exact .done (hQ a)
  | error halt =>
    cases halt with
    | fault f => exact .fault (hfaults f)
    | exhausted => exact .exhausted

/-- The same is found in both computations, unless the first one comes to an early end. -/
theorem Runs.map_eq {Q : α → β → Prop} {x : Exec α} {y : Exec β} {f : α → γ} {g : β → γ}
    (h : L.Runs Q x y) (hfaults : ∀ {f g}, L.faults f g → f = g)
    (hearly : L.early → x ≠ Run.exhausted) (hfg : ∀ a b, Q a b → f a = g b) :
    f <$> x = g <$> y := by
  cases h with
  | done hab => rw [map_pure, map_pure, hfg _ _ hab]
  | fault hf =>
    rw [hfaults hf]
    rfl
  | exhausted => rfl
  | early he => exact absurd rfl (hearly he)

/-! ## Replies and outcomes -/

/-- Successes with the same value behind which the cursors go together, or failures with messages
that do. -/
inductive Replies (L : Link σ) : Reply σ α → Reply σ α → Prop where
  | ok (a : α) {c d : Cursor σ} (h : L.cursors c d) : Replies L (.ok a c) (.ok a d)
  | error {m n : Message σ} (h : L.messages m n) : Replies L (.error m) (.error n)

/-- Outcomes with the same tag and with replies that correspond; deferred replies count if the
link is deep. -/
inductive Outcomes (L : Link σ) : Outcome Id σ α → Outcome Id σ α → Prop where
  | consumed {x y : Deferred Id (Reply σ α)} (h : L.deep → L.Runs L.Replies x.take y.take) :
      Outcomes L (.consumed x) (.consumed y)
  | empty {r s : Reply σ α} (h : L.Replies r s) : Outcomes L (.empty r) (.empty s)

/-- Runs of parsers that correspond. -/
abbrev Parses (L : Link σ) (x y : Exec (Outcome Id σ α)) : Prop := L.Runs L.Outcomes x y

/-- From cursors that go together the parsers have runs that correspond. -/
def Parsers (L : Link σ) (p q : Parser σ α) : Prop :=
  ∀ {c d}, L.cursors c d → L.Parses (p.run c) (q.run d)

/-- The value of a reply can be changed on both sides. -/
theorem Replies.map {r s : Reply σ α} (f : α → β) (h : L.Replies r s) :
    L.Replies (r.map f) (s.map f) := by
  cases h with
  | ok a hcd => exact .ok (f a) hcd
  | error hm => exact .error hm

theorem Outcomes.map {o o' : Outcome Id σ α} (f : α → β) (h : L.Outcomes o o') :
    L.Outcomes (o.map f) (o'.map f) := by
  cases h with
  | consumed hr => exact .consumed fun hdeep => (hr hdeep).map fun _ _ => Replies.map f
  | empty hr => exact .empty (hr.map f)

/-- What is taken from outcomes that belong together belongs together. -/
theorem Outcomes.takeReply {o o' : Outcome Id σ α} (hdeep : L.deep) (h : L.Outcomes o o') :
    L.Runs L.Replies o.takeReply o'.takeReply := by
  cases h with
  | consumed hr => exact hr hdeep
  | empty hr => exact .done hr

/-- Outcomes go on alike. The tag is known at once, and what follows belongs to the deferred
reply. -/
theorem Outcomes.andThen {o o' : Outcome Id σ α}
    {k k' : α → Cursor σ → Exec (Outcome Id σ β)} (h : L.Outcomes o o')
    (hk : ∀ a {c d}, L.cursors c d → L.Parses (k a c) (k' a d)) :
    L.Parses (o.andThen k) (o'.andThen k') := by
  cases h with
  | empty hr =>
    cases hr with
    | ok a hcd => exact hk a hcd
    | error hm => exact .done (.empty (.error hm))
  | consumed hr =>
    refine .done (.consumed fun hdeep => (hr hdeep).bind fun r s hrs => ?_)
    cases hrs with
    | ok a hcd => exact (hk a hcd).bind fun _ _ ho => ho.takeReply hdeep
    | error hm => exact .done (.error hm)

/-! ## Leaves -/

theorem expecting {c d : Cursor σ} (h : L.cursors c d) (label : String) :
    L.messages (.expecting c label) (.expecting d label) :=
  L.withExpected (L.on h) label

/-- Cursors that belong together are at the end together. -/
theorem isAtEnd_eq {c d : Cursor σ} (h : L.cursors c d) : c.isAtEnd = d.isAtEnd := by
  rw [Bool.eq_iff_iff, Cursor.isAtEnd_iff, Cursor.isAtEnd_iff, ← Cursor.peek_eq_none_iff,
    ← Cursor.peek_eq_none_iff, L.peek_eq h]

/-- If the link looks into replies, as many symbols are left. -/
theorem left_eq (hdeep : L.deep) {c d : Cursor σ} (h : L.cursors c d) : c.left = d.left := by
  rw [← c.length_remaining, ← d.length_remaining, L.remaining_eq hdeep h]

/-- The leaves run alike at cursors that belong together. -/
theorem parsers_retn (a : α) : L.Parsers (.retn a) (.retn a) :=
  fun h => .done (.empty (.ok a h))

theorem parsers_fail : L.Parsers (.fail : Parser σ α) .fail :=
  fun h => .done (.empty (.error (L.on h)))

theorem parsers_diverge : L.Parsers (.diverge : Parser σ α) .diverge := fun _ => .exhausted

theorem parsers_eof : L.Parsers (.eof : Parser σ Unit) .eof := by
  intro c d h
  simp only [Parser.eof, isAtEnd_eq h]
  cases d.isAtEnd with
  | true => exact .done (.empty (.ok () h))
  | false => exact .done (.empty (.error (expecting h eofLabel)))

theorem parsers_satisfy (accepts : σ → Bool) :
    L.Parsers (.satisfy accepts) (.satisfy accepts) := by
  intro c d h
  have hpeek := L.peek_eq h
  simp only [Parser.satisfy, hpeek]
  cases hd : d.peek with
  | none => exact .done (.empty (.error (expecting h predicateLabel)))
  | some a =>
    obtain ⟨c', hc'⟩ := Cursor.exists_advance_of_peek (hpeek.trans hd)
    obtain ⟨d', hd'⟩ := Cursor.exists_advance_of_peek hd
    simp only [hc', hd']
    split
    · -- one step is the move by one symbol
      refine .done (.consumed fun hdeep => .done (.ok a ?_))
      exact L.advanceBy hdeep h (Cursor.advanceBy_eq_ok_iff.2 (Cursor.advance_eq_ok_iff.1 hc'))
        (Cursor.advanceBy_eq_ok_iff.2 (Cursor.advance_eq_ok_iff.1 hd'))
    · exact .done (.empty (.error (expecting h predicateLabel)))

/-- A search runs alike if the link looks into replies: what is found occurs in what is left, so
both cursors can move that far. -/
theorem parsers_scan (hdeep : L.deep) (m : Matcher σ) : L.Parsers (.scan m) (.scan m) := by
  intro c d h
  have hrem := L.remaining_eq hdeep h
  simp only [Parser.scan, hrem]
  cases hfind : m.find d.remaining with
  | none => exact .done (.empty (.error (expecting h m.label)))
  | some ys =>
    cases ys with
    | nil => exact .done (.empty (.ok [] h))
    | cons a found =>
      have hlen : found.length + 1 ≤ d.left :=
        d.length_remaining ▸ (m.find_isInfix hfind).length_le
      obtain ⟨d', hd'⟩ := Cursor.exists_advanceBy hlen
      obtain ⟨c', hc'⟩ := Cursor.exists_advanceBy (left_eq hdeep h ▸ hlen)
      simp only [hc', hd']
      exact .done (.consumed fun _ => .done (.ok _ (L.advanceBy hdeep h hc' hd')))

/-! ## Combinators -/

variable {p p' q q' : Parser σ α}

/-- A sequence runs alike if its parts do. -/
theorem Parsers.bind {k k' : α → Parser σ β} (hp : L.Parsers p p')
    (hk : ∀ a, L.Parsers (k a) (k' a)) : L.Parsers (p.bind k) (p'.bind k') :=
  fun h => (hp h).bind fun _ _ ho => ho.andThen fun a _ _ hcd => hk a hcd

theorem Parsers.map (f : α → β) (hp : L.Parsers p p') : L.Parsers (p.map f) (p'.map f) :=
  fun h => (hp h).bind fun _ _ ho => .done (ho.map f)

/-- Alternatives run alike if both of them do: each run goes on with its second one from where it
began. -/
theorem Parsers.orElse (hp : L.Parsers p p') (hq : L.Parsers q q') :
    L.Parsers (p.orElse q) (p'.orElse q') := by
  intro c d h
  refine (hp h).bind fun o o' ho => ?_
  cases ho with
  | consumed hr => exact .done (.consumed hr)
  | empty hr =>
    cases hr with
    | ok a hcd => exact .done (.empty (.ok a hcd))
    | error hm =>
      refine (hq h).bind fun o o' ho => ?_
      cases ho with
      | consumed hr => exact .done (.consumed hr)
      | empty hr =>
        cases hr with
        | ok a hcd => exact .done (.empty (.ok a hcd))
        | error hn => exact .done (.empty (.error (L.merge hm hn)))

/-- An attempt has to look at the reply. -/
theorem Parsers.attempt (hdeep : L.deep) (hp : L.Parsers p p') :
    L.Parsers p.attempt p'.attempt := by
  intro c d h
  refine (hp h).bind fun o o' ho => ?_
  cases ho with
  | empty hr => exact .done (.empty hr)
  | consumed hr =>
    refine (hr hdeep).bind fun r s hrs => ?_
    cases hrs with
    | ok a hcd => exact .done (.consumed fun _ => .done (.ok a hcd))
    | error hm => exact .done (.empty (.error hm))

theorem Parsers.label (name : String) (hp : L.Parsers p p') :
    L.Parsers (p.label name) (p'.label name) := by
  intro c d h
  refine (hp h).bind fun o o' ho => ?_
  cases ho with
  | consumed hr => exact .done (.consumed hr)
  | empty hr =>
    cases hr with
    | ok a hcd => exact .done (.empty (.ok a hcd))
    | error hm => exact .done (.empty (.error (L.relabel hm name)))

/-- Once round the loop the replies of both runs are of the same kind, so both loops stop or both
go on. -/
theorem Parsers.repeatLoop (hdeep : L.deep) (hp : L.Parsers p p') (bound : Nat)
    {x y : Deferred Id (Reply σ α)} (h : L.Runs L.Replies x.take y.take) (before : List α) :
    L.Runs L.Replies (p.repeatLoop bound x before) (p'.repeatLoop bound y before) := by
  induction bound generalizing x y before with
  | zero => exact .exhausted
  | succ bound ih =>
    refine h.bind fun r s hrs => ?_
    cases hrs with
    | error hm => exact .done (.error hm)
    | ok a hcd =>
      refine (hp hcd).bind fun o o' ho => ?_
      cases ho with
      | consumed hnext => exact ih (hnext hdeep) (a :: before)
      | empty _ => exact .done (.ok _ hcd)

/-- A repetition runs alike if its item does: as many symbols are left in both runs, so both loops
have the same bound. -/
theorem Parsers.repeatBehind (vs : List α) (hp : L.Parsers p p') :
    L.Parsers (p.repeatBehind vs) (p'.repeatBehind vs) := by
  intro c d h
  refine (hp h).bind fun o o' ho => ?_
  cases ho with
  | empty _ => exact .done (.empty (.ok vs h))
  | consumed hr =>
    refine .done (.consumed fun hdeep => ?_)
    simp only [Deferred.take, left_eq hdeep h]
    exact hp.repeatLoop hdeep _ (hr hdeep) _

/-! ## Grammars and rules -/

/-- The combinators keep the correspondence, attempts and searches if the link is deep. Parsers made
by other means and wrappers that only one of the runs has are asked for. -/
theorem compatible_wrapped {A : Form → Prop} {before after : Wrapper → Prop}
    (hattempt : A .attempt → L.deep) (hscan : A .scan → L.deep)
    (hraw : A .raw → ∀ {α : Type} (p : Parser σ α), L.Parsers p p)
    (hremoved : ∀ {w : Wrapper}, before w → ∀ {α : Type} {p p' : Parser σ α},
      L.Parsers p p' → L.Parsers (w.wrapParser p) p')
    (hadded : ∀ {w : Wrapper}, after w → ∀ {α : Type} {p p' : Parser σ α},
      L.Parsers p p' → L.Parsers p (w.wrapParser p')) :
    Compatible A before after fun p q => L.Parsers p q where
  retn := parsers_retn
  fail := parsers_fail
  satisfy := parsers_satisfy
  eof := parsers_eof
  scan hA := parsers_scan (hscan hA)
  raw := hraw
  diverge := parsers_diverge
  bind := Parsers.bind
  map f _ _ := Parsers.map f
  orElse := Parsers.orElse
  attempt hA := Parsers.attempt (hattempt hA)
  label name _ _ := Parsers.label name
  repeatBehind vs _ _ := Parsers.repeatBehind vs
  removed := hremoved
  added := hadded

/-- The combinators keep the correspondence; attempts and searches do if the link is deep. -/
theorem compatible {A : Form → Prop} (hraw : ¬ A .raw) (hattempt : A .attempt → L.deep)
    (hscan : A .scan → L.deep) :
    Compatible A (fun _ => False) (fun _ => False) fun p q => L.Parsers p q :=
  compatible_wrapped hattempt hscan (fun hA => absurd hA hraw) (fun hw => hw.elim)
    fun hw => hw.elim

/-- A reference corresponds to itself one level deeper, if the definitions of the rules do. -/
theorem parsers_call_succ {rules : Rules σ ρ} {n m : Nat} {r : ρ α}
    (h : ∀ g, rules.find r = .known g → L.Parsers (g.toParser fun r' => rules.call n r')
      (g.toParser fun r' => rules.call m r')) :
    L.Parsers (rules.call (n + 1) r) (rules.call (m + 1) r) := by
  intro c d hcd
  simp only [Rules.call]
  cases hfind : rules.find r with
  | unassigned => exact .fault (L.unassigned hcd)
  | dropped => exact .fault (L.dropped hcd)
  | known g => exact h g hfind hcd

/-- If definitions correspond to themselves as soon as their references do, references correspond to
themselves at each depth of calls, and at a greater depth if the first run may end early. -/
theorem parsers_call_of {rules : Rules σ ρ}
    (hrules : ∀ {α : Type} (r : ρ α) (g : Grammar σ ρ α), rules.find r = .known g →
      ∀ env env' : {α : Type} → ρ α → Parser σ α,
        (∀ {α : Type} (r : ρ α), L.Parsers (env r) (env' r)) →
          L.Parsers (g.toParser env) (g.toParser env'))
    {n m : Nat} (hnm : n = m ∨ L.early ∧ n ≤ m) (r : ρ α) :
    L.Parsers (rules.call n r) (rules.call m r) := by
  induction n generalizing m α with
  | zero =>
    rcases hnm with rfl | ⟨he, -⟩
    · exact parsers_diverge
    · exact fun _ => .early he _
  | succ n ih =>
    obtain ⟨k, rfl, hnk⟩ : ∃ k, m = k + 1 ∧ (n = k ∨ L.early ∧ n ≤ k) := by
      rcases hnm with rfl | ⟨he, hle⟩
      · exact ⟨n, rfl, .inl rfl⟩
      · exact ⟨m - 1, by omega, .inr ⟨he, by omega⟩⟩
    exact parsers_call_succ fun g hg => hrules r g hg _ _ fun r' => ih hnk r'

/-- References correspond to themselves at each depth of calls, and at a greater depth if the first
run may end early. -/
theorem parsers_call {A : Form → Prop} (hraw : ¬ A .raw) (hattempt : A .attempt → L.deep)
    (hscan : A .scan → L.deep) {rules : Rules σ ρ} (hrules : rules.Within A) {n m : Nat}
    (hnm : n = m ∨ L.early ∧ n ≤ m) (r : ρ α) : L.Parsers (rules.call n r) (rules.call m r) :=
  parsers_call_of (fun r g hg _ _ henv =>
    (compatible hraw hattempt hscan).toParser henv (.refl g) (hrules r g hg)) hnm r

/-- Grammars over rules correspond to themselves, at depths of calls as in `parsers_call`. -/
theorem parsers_toParser_call {A : Form → Prop} (hraw : ¬ A .raw)
    (hattempt : A .attempt → L.deep) (hscan : A .scan → L.deep) {rules : Rules σ ρ}
    (hrules : rules.Within A) {n m : Nat} (hnm : n = m ∨ L.early ∧ n ≤ m) {g : Grammar σ ρ α}
    (hg : g.Within A) :
    L.Parsers (g.toParser fun r => rules.call n r) (g.toParser fun r => rules.call m r) :=
  (compatible hraw hattempt hscan).toParser
    (fun r => parsers_call hraw hattempt hscan hrules hnm r) (.refl g) hg

end Link

end ParserKit
