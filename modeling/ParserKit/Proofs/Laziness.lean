import ParserKit.Proofs.Safety

/-!
# Tags are known before replies

Running a parser tells whether it consumed input, and if it did not, what its reply is. This much is
the *glance* of a run. What a combination of parsers shows at a glance is determined by what its
parts show at a glance: no combinator but an attempt asks for a deferred reply before it has to give
an outcome itself. There is one equation for each combinator that says how.

To say that deferred replies have no part in the run of a grammar, the grammar is written over
*leaves*, which are parsers of any kind that are filled in later. Its glance does not change with
the deferred replies of the leaves, be they other replies, faults, or computations without an end.
In particular they could be settled from the start; so a fault that sits in one of them is not met
by a run.

## Main definitions

* `Outcome.glance`, `Parser.glance`: what is seen before a reply is asked for
* `Parser.quiet`: a parser whose replies are not deferred
* `OpenRef`, `OpenRules`: references in grammars over leaves, and rules
* `Grammar.fill`, `OpenRules.fill`: parsers in the place of leaves

## Main results

* `Parser.glance_bind`, `Parser.glance_orElse`, …: the glance of a combination
* `Parser.glance_compatible`: parsers that are the same at a glance make combinations that are
* `OpenRules.Related.call`: what relates the leaves relates calls of rules over them
* `OpenRules.glance_fill`: deferred replies of leaves have no part in the glance of a grammar
-/

namespace ParserKit

variable {σ : Type} {ρ τ : Type → Type} {α β : Type}

/-! ## Glances -/

/-- What an outcome shows before its reply is asked for: a reply that is known because nothing was
consumed, or nothing but the tag. -/
def Outcome.glance {n : Type → Type} : Outcome n σ α → Option (Reply σ α)
  | .consumed _ => none
  | .empty reply => some reply

namespace Parser

variable {p : Parser σ α} {c : Cursor σ}

/-- What a run shows before its reply is asked for. -/
def glance (p : Parser σ α) (c : Cursor σ) : Exec (Option (Reply σ α)) := Outcome.glance <$> p.run c

theorem glance_eq_fault_iff {f : Fault} : p.glance c = Run.fault f ↔ p.run c = Run.fault f :=
  Run.map_eq_fault_iff

/-- A sequence goes on behind a known success; else its glance is that of its first part. -/
theorem glance_bind (p : Parser σ α) (k : α → Parser σ β) (c : Cursor σ) :
    (p.bind k).glance c = p.glance c >>= fun
      | none => pure none
      | some (.ok a rest) => (k a).glance rest
      | some (.error m) => pure (some (.error m)) := by
  simp only [glance, bind, map_bind, bind_map_left]
  refine bind_congr fun o => ?_
  cases o with
  | consumed _ => rfl
  | empty r => cases r <;> rfl

theorem glance_map (f : α → β) (p : Parser σ α) (c : Cursor σ) :
    (p.map f).glance c = p.glance c >>= fun seen => pure (seen.map (Reply.map f)) := by
  simp only [glance, map, map_bind, bind_map_left]
  refine bind_congr fun o => ?_
  cases o <;> rfl

/-- The second alternative counts where the first one is known to have failed. -/
theorem glance_orElse (p q : Parser σ α) (c : Cursor σ) :
    (p.orElse q).glance c = p.glance c >>= fun
      | some (.error m) => q.glance c >>= fun
        | some (.error n) => pure (some (.error (m.merge n)))
        | seen => pure seen
      | seen => pure seen := by
  simp only [glance, orElse, map_bind, bind_map_left]
  refine bind_congr fun o => ?_
  cases o with
  | consumed _ => rfl
  | empty r =>
    cases r with
    | ok a rest => rfl
    | error m =>
      simp only [Outcome.glance, map_bind]
      refine bind_congr fun o => ?_
      cases o with
      | consumed _ => rfl
      | empty r => cases r <;> rfl

theorem glance_label (name : String) (p : Parser σ α) (c : Cursor σ) :
    (p.label name).glance c = p.glance c >>= fun
      | some (.error m) => pure (some (.error (m.relabel name)))
      | seen => pure seen := by
  simp only [glance, label, map_bind, bind_map_left]
  refine bind_congr fun o => ?_
  cases o with
  | consumed _ => rfl
  | empty r => cases r <;> rfl

/-- The first round decides the tag of a repetition; the loop is behind its reply. -/
theorem glance_repeatBehind (p : Parser σ α) (vs : List α) (c : Cursor σ) :
    (p.repeatBehind vs).glance c =
      p.glance c >>= fun seen => pure (seen.map fun _ => .ok vs c) := by
  simp only [glance, repeatBehind, repeatFrom, map_bind, bind_map_left]
  refine bind_congr fun o => ?_
  cases o <;> rfl

/-! ## Glances at grammars -/

/-- Nothing tells the parsers apart at a glance. -/
def SameGlance (p q : Parser σ α) : Prop := ∀ c, p.glance c = q.glance c

/-- Parsers that are the same at a glance make combinations that are. -/
theorem glance_compatible :
    Compatible (· ≠ .attempt) (fun _ => False) (fun _ => False)
      fun {_} (p q : Parser σ _) => p.SameGlance q where
  retn _ _ := rfl
  fail _ := rfl
  satisfy _ _ := rfl
  eof _ := rfl
  scan _ _ _ := rfl
  raw _ _ _ _ := rfl
  diverge _ := rfl
  bind hp hk c := by
    rw [glance_bind, glance_bind, hp c]
    refine bind_congr fun seen => ?_
    match seen with
    | none => rfl
    | some (.ok a rest) => exact hk a rest
    | some (.error m) => rfl
  map f p p' hp c := by rw [glance_map, glance_map, hp c]
  orElse hp hq c := by rw [glance_orElse, glance_orElse, hp c, hq c]
  attempt hA := absurd rfl hA
  label name p p' hp c := by rw [glance_label, glance_label, hp c]
  repeatBehind vs p p' hp c := by rw [glance_repeatBehind, glance_repeatBehind, hp c]
  removed hw := hw.elim
  added hw := hw.elim

end Parser

/-! ## Replies that are not deferred -/

/-- The outcome with a failure that is known in the place of a deferred reply. -/
def Outcome.quiet (c : Cursor σ) : Outcome Id σ α → Outcome Id σ α
  | .consumed _ => .consumed (.settled (.error (.on c)))
  | .empty reply => .empty reply

namespace Parser

variable {p : Parser σ α} {c : Cursor σ}

/-- The parser with a failure that is known in the place of each deferred reply. -/
def quiet (p : Parser σ α) : Parser σ α where
  run c := Outcome.quiet c <$> p.run c

theorem sameGlance_quiet (p : Parser σ α) : p.SameGlance p.quiet := by
  intro c
  have hglance : (Outcome.glance ∘ Outcome.quiet c : Outcome Id σ α → _) = Outcome.glance := by
    funext o
    cases o <;> rfl
  rw [glance, glance, quiet, ← LawfulFunctor.comp_map, hglance]

/-- Where no reply is deferred, the faults of a parser are those of its runs. -/
theorem parse_quiet_eq_fault_iff {f : Fault} :
    p.quiet.parse c = Run.fault f ↔ p.run c = Run.fault f := by
  rw [parse_eq_fault_iff, quiet, Run.map_eq_fault_iff]
  refine or_iff_left ?_
  rintro ⟨o', ho', h⟩
  obtain ⟨o, -, rfl⟩ := Run.map_eq_pure_iff.1 ho'
  cases o <;> cases h

end Parser

/-! ## Leaves -/

/-- References in a grammar over leaves: to rules, and to leaves. -/
inductive OpenRef (ρ τ : Type → Type) (α : Type) where
  /-- A reference to a rule. -/
  | rule (r : ρ α)
  /-- A leaf, whose parser is left open. -/
  | leaf (t : τ α)

/-- The parsers of references to rules and to leaves. -/
def OpenRef.toParser (env : {α : Type} → ρ α → Parser σ α)
    (leaves : {α : Type} → τ α → Parser σ α) : OpenRef ρ τ α → Parser σ α
  | .rule r => env r
  | .leaf t => leaves t

/-- Put parsers in the place of leaves. -/
def Grammar.fill (leaves : {α : Type} → τ α → Parser σ α) (g : Grammar σ (OpenRef ρ τ) α) :
    Grammar σ ρ α :=
  g.subst fun
    | .rule r => .ref r
    | .leaf t => .raw (leaves t)

/-- To fill in leaves and to run the grammar is to run it with those leaves. -/
theorem Grammar.toParser_fill (env : {α : Type} → ρ α → Parser σ α)
    (leaves : {α : Type} → τ α → Parser σ α) (g : Grammar σ (OpenRef ρ τ) α) :
    (g.fill leaves).toParser env = g.toParser (OpenRef.toParser env leaves) := by
  rw [fill, toParser_subst]
  congr 1
  funext α x
  cases x <;> rfl

/-- Rules whose definitions are grammars over leaves. -/
structure OpenRules (σ : Type) (ρ τ : Type → Type) where
  /-- The number of rules. -/
  count : Nat
  /-- What a reference finds. -/
  find : {α : Type} → ρ α → Definition (Grammar σ (OpenRef ρ τ) α)

namespace OpenRules

/-- Put parsers in the place of leaves, in every definition. -/
def fill (rules : OpenRules σ ρ τ) (leaves : {α : Type} → τ α → Parser σ α) : Rules σ ρ where
  count := rules.count
  find r :=
    match rules.find r with
    | .unassigned => .unassigned
    | .dropped => .dropped
    | .known g => .known (g.fill leaves)

/-- The definitions use none of the forms but those that `A` allows. -/
def Within (A : Form → Prop) (rules : OpenRules σ ρ τ) : Prop :=
  ∀ {α : Type} (r : ρ α) (g : Grammar σ (OpenRef ρ τ) α), rules.find r = .known g → g.Within A

variable {rules : OpenRules σ ρ τ} {leaves leaves' : {α : Type} → τ α → Parser σ α}

section Related

variable {A : Form → Prop} {R : {α : Type} → Parser σ α → Parser σ α → Prop}

/-- The relation holds between the parsers of leaves, and between calls that find no definition. -/
structure Related (rules : OpenRules σ ρ τ) (R : {α : Type} → Parser σ α → Parser σ α → Prop)
    (leaves leaves' : {α : Type} → τ α → Parser σ α) : Prop where
  leaf : ∀ {α : Type} (t : τ α), R (leaves t) (leaves' t)
  unassigned : ∀ {α : Type} (r : ρ α), rules.find r = .unassigned →
    R (⟨fun c => Run.fault (.unassigned c.position)⟩ : Parser σ α)
      ⟨fun c => Run.fault (.unassigned c.position)⟩
  dropped : ∀ {α : Type} (r : ρ α), rules.find r = .dropped →
    R (⟨fun c => Run.fault (.dropped c.position)⟩ : Parser σ α)
      ⟨fun c => Run.fault (.dropped c.position)⟩

theorem Related.toParser (hR : Compatible A (fun _ => False) (fun _ => False) R)
    (hleaves : rules.Related R leaves leaves') {env env' : {α : Type} → ρ α → Parser σ α}
    (henv : ∀ {α : Type} (r : ρ α), R (env r) (env' r)) {g : Grammar σ (OpenRef ρ τ) α}
    (hg : g.Within A) : R ((g.fill leaves).toParser env) ((g.fill leaves').toParser env') := by
  rw [Grammar.toParser_fill, Grammar.toParser_fill]
  refine hR.toParser (fun x => ?_) (.refl g) hg
  cases x with
  | rule r => exact henv r
  | leaf t => exact hleaves.leaf t

/-- A relation that the combinators keep holds between calls, at each depth. -/
theorem Related.call (hR : Compatible A (fun _ => False) (fun _ => False) R)
    (hleaves : rules.Related R leaves leaves') (hrules : rules.Within A) (depth : Nat) (r : ρ α) :
    R ((rules.fill leaves).call depth r) ((rules.fill leaves').call depth r) := by
  induction depth generalizing α with
  | zero => exact hR.diverge
  | succ depth ih =>
    cases hfind : rules.find r with
    | unassigned =>
      simp only [Rules.call, fill, hfind]
      exact hleaves.unassigned r hfind
    | dropped =>
      simp only [Rules.call, fill, hfind]
      exact hleaves.dropped r hfind
    | known g =>
      simp only [Rules.call, fill, hfind]
      exact hleaves.toParser hR (fun r' => ih r') (hrules r g hfind)

end Related

/-- The faults of a run: those of the runs of leaves, and of references without definitions. -/
def RunFaults (rules : OpenRules σ ρ τ) (leaves : {α : Type} → τ α → Parser σ α) (f : Fault) :
    Prop :=
  (∃ (α : Type) (t : τ α) (c : Cursor σ), (leaves t).run c = Run.fault f) ∨
    (rules.fill leaves).Blames f

theorem related_quiet (rules : OpenRules σ ρ τ) (leaves : {α : Type} → τ α → Parser σ α) :
    rules.Related (fun {_} p _ => p.FaultsIn (rules.RunFaults leaves))
      (fun t => (leaves t).quiet) fun t => (leaves t).quiet where
  leaf t c f h := .inl ⟨_, t, c, Parser.parse_quiet_eq_fault_iff.1 h⟩
  unassigned r hr c f h := by
    cases h
    refine .inr ⟨⟨_, r⟩, c.position, .inl ⟨?_, rfl⟩⟩
    simp only [fill, hr]
  dropped r hr c f h := by
    cases h
    refine .inr ⟨⟨_, r⟩, c.position, .inr ⟨?_, rfl⟩⟩
    simp only [fill, hr]

/-- The parser of a grammar over leaves. -/
def parser (rules : OpenRules σ ρ τ) (leaves : {α : Type} → τ α → Parser σ α)
    (g : Grammar σ (OpenRef ρ τ) α) : Parser σ α :=
  (rules.fill leaves).parser (g.fill leaves)

/-- The parser of a grammar over leaves, where at most `depth` calls nest. -/
def parserAt (rules : OpenRules σ ρ τ) (leaves : {α : Type} → τ α → Parser σ α) (depth : Nat)
    (g : Grammar σ (OpenRef ρ τ) α) : Parser σ α :=
  (g.fill leaves).toParser fun r => (rules.fill leaves).call depth r

theorem related_parserAt {A : Form → Prop} {R : {α : Type} → Parser σ α → Parser σ α → Prop}
    (hR : Compatible A (fun _ => False) (fun _ => False) R)
    (hleaves : rules.Related R leaves leaves') (hrules : rules.Within A)
    {g : Grammar σ (OpenRef ρ τ) α} (hg : g.Within A) (depth : Nat) :
    R (rules.parserAt leaves depth g) (rules.parserAt leaves' depth g) :=
  hleaves.toParser hR (fun r => hleaves.call hR hrules depth r) hg

/-- Interpretations of the leaves that are the same at a glance make parsers that are. -/
theorem sameGlance_parserAt (hrules : rules.Within (· = .scan)) {g : Grammar σ (OpenRef ρ τ) α}
    (hg : g.Within (· = .scan))
    (hleaves : ∀ {β : Type} (t : τ β), (leaves t).SameGlance (leaves' t)) (depth : Nat) :
    (rules.parserAt leaves depth g).SameGlance (rules.parserAt leaves' depth g) := by
  have hforms : ∀ form, form = Form.scan → form ≠ Form.attempt := by
    rintro form rfl
    exact nofun
  exact related_parserAt (Parser.glance_compatible.mono hforms)
    ⟨hleaves, fun _ _ _ => rfl, fun _ _ _ => rfl⟩ hrules hg depth

/-- The faults of a run are those of runs: the run is the same if no reply is deferred. -/
theorem runFaults_of_parserAt (hrules : rules.Within (· = .scan)) {g : Grammar σ (OpenRef ρ τ) α}
    (hg : g.Within (· = .scan)) (depth : Nat) {c : Cursor σ} {f : Fault}
    (h : (rules.parserAt leaves depth g).run c = Run.fault f) : rules.RunFaults leaves f := by
  have hforms : ∀ form, form = Form.scan → form ≠ Form.raw := by
    rintro form rfl
    exact nofun
  have hquiet : (rules.parserAt (fun t => (leaves t).quiet) depth g).FaultsIn
      (rules.RunFaults leaves) :=
    related_parserAt (Parser.faultsIn_compatible.mono hforms) (rules.related_quiet leaves) hrules
      hg depth
  refine hquiet.of_run (c := c) (Parser.glance_eq_fault_iff.1 ?_)
  rw [← sameGlance_parserAt hrules hg (fun t => (leaves t).sameGlance_quiet) depth c]
  exact Parser.glance_eq_fault_iff.2 h

/-- Let a grammar and its rules be over leaves, without attempts and without parsers made by other
means that are no leaves. Two interpretations of the leaves that are the same at a glance, whatever
their deferred replies are or do, make parsers that are: with the same tag, and the same reply if
nothing is consumed. The faults that a run comes to are those of the runs of leaves, and of
references without definitions; none sits in a deferred reply. This is so however deep calls may
nest, and for the parser of the grammar. -/
theorem glance_fill (hrules : rules.Within (· = .scan)) {g : Grammar σ (OpenRef ρ τ) α}
    (hg : g.Within (· = .scan)) {leaves leaves' : {α : Type} → τ α → Parser σ α}
    (hleaves : ∀ {β : Type} (t : τ β) c, (leaves t).glance c = (leaves' t).glance c)
    (c : Cursor σ) :
    (rules.parser leaves g).glance c = (rules.parser leaves' g).glance c ∧
      (∀ depth, (rules.parserAt leaves depth g).glance c =
        (rules.parserAt leaves' depth g).glance c) ∧
      ∀ f, (rules.parser leaves g).run c = Run.fault f ∨
        (∃ depth, (rules.parserAt leaves depth g).run c = Run.fault f) →
          rules.RunFaults leaves f := by
  refine ⟨?_, fun depth => sameGlance_parserAt hrules hg hleaves depth c, ?_⟩
  · -- the parser runs at a depth that the leaves have no part in
    exact sameGlance_parserAt hrules hg hleaves ((rules.fill leaves).depthFrom c) c
  · rintro f (h | ⟨depth, h⟩)
    · exact runFaults_of_parserAt hrules hg ((rules.fill leaves).depthFrom c) h
    · exact runFaults_of_parserAt hrules hg depth h

end OpenRules

/-- The leaves of nested brackets. -/
inductive BracketLeaf : Type → Type where
  /-- An opening bracket. -/
  | opening : BracketLeaf Char

/-- The depth of brackets that are opened, where it is left open how a bracket is read. -/
def opened : Grammar Char (OpenRef NestingRef BracketLeaf) Nat :=
  (((Grammar.ref (.leaf .opening)).seqRight (.ref (.rule .nesting))).map (· + 1)).orElse (.retn 0)

/-- The rule of `opened`. -/
def openedRules : OpenRules Char NestingRef BracketLeaf where
  count := 1
  find {α} r := match α, r with
    | _, .nesting => .known opened

/-- An opening bracket whose reply halts when it is asked for. -/
def haltingBracket (halt : Halt) : Parser Char Char where
  run c :=
    if c.peek = some '(' then return .consumed (.pending fun _ => throw halt)
    else return .emptyError (.on c)

/-- The parser of `opened`, where brackets halt when they are asked for. -/
def haltingOpened (halt : Halt) : Parser Char Nat :=
  openedRules.parser (fun | .opening => haltingBracket halt) opened

/-- Brackets that fault and brackets without an end are seen alike to be read, before either halt is
met. -/
theorem glance_of_haltingOpened :
    (haltingOpened (.fault (.raised "bracket"))).parse (.start 0 #['(', '(']) =
        Run.fault (.raised "bracket") ∧
      (haltingOpened .exhausted).parse (.start 0 #['(', '(']) = Run.exhausted ∧
      (haltingOpened (.fault (.raised "bracket"))).glance (.start 0 #['(', '(']) =
        (haltingOpened .exhausted).glance (.start 0 #['(', '(']) := by
  have hrules : openedRules.Within (· = .scan) := by
    intro α r g hg
    cases r
    cases hg
    exact ⟨⟨trivial, trivial⟩, trivial⟩
  refine ⟨rfl, rfl, ?_⟩
  refine (OpenRules.glance_fill hrules (hrules .nesting opened rfl) (fun t c => ?_) _).1
  cases t
  simp only [haltingBracket, Parser.glance]
  split <;> rfl

end ParserKit
