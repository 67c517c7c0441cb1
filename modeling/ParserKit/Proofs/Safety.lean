import ParserKit.Proofs.Cursor.Text
import ParserKit.Proofs.Grammar.References
import ParserKit.Proofs.Laws
import ParserKit.Proofs.Termination

/-!
# Faults of grammars

A fault is a broken contract: a cursor that is moved past the end of its input, a reply that is
asked for after its computation broke down, a reference without a definition. Grammars over the
combinators break no contract themselves. A symbol is read only where there is one, a search moves
the cursor over what it found in the symbols left, and a deferred reply is taken once. All that can
go wrong is that a reference is run whose rule has no definition, or has been given up.

A parser is run and then its reply is taken. The fault of a combination in this is one of its parts,
at the same cursor or further along.

## Main definitions

* `Parser.Meets p c f`: running `p` at `c` and asking for its reply meets the fault `f`
* `Parser.FaultsIn Q p`: `p` meets no faults but those in `Q`
* `Rules.Blames rules f`: `f` is the fault of a reference that finds no definition

## Main results

* `Parser.faultsIn_compatible`: the combinators meet no faults but those of their parts
* `Rules.parser_meets`: grammars meet no faults but those of references without definitions
-/

namespace ParserKit

variable {σ : Type} {ρ : Type → Type} {α β : Type}

namespace Parser

variable {Q : Fault → Prop} {p q : Parser σ α} {c : Cursor σ} {f : Fault}

/-! ## Faults -/

/-- The fault is met when the parser is run, or when the reply of its outcome is taken or looked
at. -/
def Meets (p : Parser σ α) (c : Cursor σ) (f : Fault) : Prop :=
  p.run c = Run.fault f ∨
    ∃ o, p.run c = pure o ∧ (o.takeReply = Run.fault f ∨ o.sight.reply = .error (.fault f))

theorem parse_eq_fault_iff :
    p.parse c = Run.fault f ↔
      p.run c = Run.fault f ∨ ∃ o, p.run c = pure o ∧ o.takeReply = Run.fault f :=
  Run.bind_eq_fault_iff

/-- Whether a reply is taken or looked at, the same fault is met. -/
theorem meets_iff : p.Meets c f ↔ p.parse c = Run.fault f := by
  have hlook (o : Outcome Id σ α) :
      o.sight.reply = .error (.fault f) ↔ o.takeReply = Run.fault f := by
    rw [Outcome.sight_eq]
    exact Iff.rfl
  simp only [Meets, hlook, or_self, parse_eq_fault_iff]

/-- All faults that the parser meets are in `Q`. -/
def FaultsIn (Q : Fault → Prop) (p : Parser σ α) : Prop := ∀ c f, p.parse c = Run.fault f → Q f

theorem FaultsIn.of_run (hp : p.FaultsIn Q) (h : p.run c = Run.fault f) : Q f :=
  hp c f (parse_eq_fault_iff.2 (.inl h))

theorem FaultsIn.of_take {o : Outcome Id σ α} (hp : p.FaultsIn Q) (ho : p.run c = pure o)
    (h : o.takeReply = Run.fault f) : Q f :=
  hp c f (parse_eq_fault_iff.2 (.inr ⟨o, ho, h⟩))

theorem Ends.parse_ne_fault (h : p.Ends c) : p.parse c ≠ Run.fault f := by
  obtain ⟨t, r, o, ho, -, hr⟩ := h
  have hparse : p.parse c = pure r := Run.bind_eq_pure_iff.2 ⟨o, ho, hr⟩
  rw [hparse]
  exact nofun

/-- A parser that always comes to an end meets no faults. -/
theorem faultsIn_of_ends (h : ∀ c, p.Ends c) : p.FaultsIn Q :=
  fun c _ hf => absurd hf (h c).parse_ne_fault

/-! ## The faults of combinations -/

/-- The reply of a sequence is that of its first part, gone on from. -/
theorem parse_bind (p : Parser σ α) (k : α → Parser σ β) (c : Cursor σ) :
    (p.bind k).parse c = p.parse c >>= fun r => r.andThen fun a rest => (k a).parse rest := by
  simp only [parse, bind, bind_assoc, Outcome.takeReply_andThen]

theorem FaultsIn.bind {k : α → Parser σ β} (hp : p.FaultsIn Q) (hk : ∀ a, (k a).FaultsIn Q) :
    (p.bind k).FaultsIn Q := by
  intro c f h
  rw [parse_bind, Run.bind_eq_fault_iff] at h
  obtain h | ⟨r, -, h⟩ := h
  · exact hp c f h
  · cases r with
    | ok a rest => exact hk a rest f h
    | error m => cases h

theorem parse_map (g : α → β) (p : Parser σ α) (c : Cursor σ) :
    (p.map g).parse c = Reply.map g <$> p.parse c := by
  simp only [parse, map, bind_assoc, pure_bind, map_bind]
  refine bind_congr fun o => ?_
  cases o <;> rfl

theorem FaultsIn.map (g : α → β) (hp : p.FaultsIn Q) : (p.map g).FaultsIn Q := by
  intro c f h
  rw [parse_map, Run.map_eq_fault_iff] at h
  exact hp c f h

/-- An alternation faults where one of its parts does: the second one is run behind a failure, and
its outcome is the result unless it fails as well. -/
theorem FaultsIn.orElse (hp : p.FaultsIn Q) (hq : q.FaultsIn Q) : (p.orElse q).FaultsIn Q := by
  intro c f h
  simp only [parse, Parser.orElse, bind_assoc] at h
  obtain h | ⟨o, ho, h⟩ := Run.bind_eq_fault_iff.1 h
  · exact hp.of_run h
  · match o, ho, h with
    | .consumed reply, ho, h => exact hp.of_take ho h
    | .empty (.ok a rest), ho, h => cases h
    | .empty (.error m), ho, h =>
      simp only [bind_assoc] at h
      obtain h | ⟨o', ho', h⟩ := Run.bind_eq_fault_iff.1 h
      · exact hq.of_run h
      · match o', ho', h with
        | .consumed reply, ho', h => exact hq.of_take ho' h
        | .empty (.ok a rest), ho', h => cases h
        | .empty (.error n), ho', h => cases h

/-- An attempt changes tags, and no replies. -/
theorem parse_attempt (p : Parser σ α) (c : Cursor σ) : p.attempt.parse c = p.parse c := by
  simp only [parse, attempt, bind_assoc]
  refine bind_congr fun o => ?_
  cases o with
  | empty r => rfl
  | consumed reply =>
    simp only [bind_assoc, Outcome.takeReply]
    calc (reply.take >>= fun r => _) = reply.take >>= pure := bind_congr fun r => by cases r <;> rfl
      _ = reply.take := bind_pure _

theorem FaultsIn.attempt (hp : p.FaultsIn Q) : p.attempt.FaultsIn Q := by
  intro c f h
  rw [parse_attempt] at h
  exact hp c f h

theorem FaultsIn.label (name : String) (hp : p.FaultsIn Q) : (p.label name).FaultsIn Q := by
  intro c f h
  simp only [parse, Parser.label, bind_assoc] at h
  obtain h | ⟨o, ho, h⟩ := Run.bind_eq_fault_iff.1 h
  · exact hp.of_run h
  · match o, ho, h with
    | .consumed reply, ho, h => exact hp.of_take ho h
    | .empty (.ok a rest), ho, h => cases h
    | .empty (.error m), ho, h => cases h

/-- The loop meets the faults of the reply that it begins with, and those of further rounds. -/
theorem FaultsIn.repeatLoop (hp : p.FaultsIn Q) (bound : Nat) {reply : Deferred Id (Reply σ α)}
    (hreply : ∀ f, reply.take = Run.fault f → Q f) (before : List α)
    (h : p.repeatLoop bound reply before = Run.fault f) : Q f := by
  induction bound generalizing reply before with
  | zero => cases h
  | succ bound ih =>
    obtain h | ⟨r, -, h⟩ := Run.bind_eq_fault_iff.1 h
    · exact hreply f h
    · cases r with
      | error m => cases h
      | ok a rest =>
        obtain h | ⟨o, ho, h⟩ := Run.bind_eq_fault_iff.1 h
        · exact hp.of_run h
        · cases o with
          | empty s => cases h
          | consumed next => exact ih (fun _ => hp.of_take ho) (a :: before) h

theorem FaultsIn.repeatBehind (vs : List α) (hp : p.FaultsIn Q) :
    (p.repeatBehind vs).FaultsIn Q := by
  intro c f h
  simp only [parse, Parser.repeatBehind, repeatFrom, bind_assoc] at h
  obtain h | ⟨o, ho, h⟩ := Run.bind_eq_fault_iff.1 h
  · exact hp.of_run h
  · cases o with
    | empty s => cases h
    | consumed reply => exact hp.repeatLoop _ (fun _ => hp.of_take ho) _ h

/-- The combinators meet no faults but those of their parts. -/
theorem faultsIn_compatible :
    Compatible (· ≠ .raw) (fun _ => False) (fun _ => False)
      fun {_} (p _ : Parser σ _) => p.FaultsIn Q where
  retn a := faultsIn_of_ends (ends_retn a)
  fail := faultsIn_of_ends ends_fail
  satisfy accepts := faultsIn_of_ends (ends_satisfy accepts)
  eof := faultsIn_of_ends ends_eof
  scan _ m := faultsIn_of_ends (ends_scan m)
  raw hA := absurd rfl hA
  diverge _ _ h := nomatch h
  bind := FaultsIn.bind
  map g _ _ := FaultsIn.map g
  orElse := FaultsIn.orElse
  attempt _ _ _ _ := FaultsIn.attempt
  label name _ _ := FaultsIn.label name
  repeatBehind vs _ _ := FaultsIn.repeatBehind vs
  removed hw := hw.elim
  added hw := hw.elim

/-- A grammar meets no faults but those of the references. -/
theorem faultsIn_toParser {env : {α : Type} → ρ α → Parser σ α}
    (henv : ∀ {α : Type} (r : ρ α), (env r).FaultsIn Q) {g : Grammar σ ρ α} (hg : g.Plain) :
    (g.toParser env).FaultsIn Q :=
  @Compatible.toParser _ _ _ _ _ _ _ faultsIn_compatible env env henv _ _ (.refl g) hg

open Classical in
/-- Only the references in the grammar count: it does not change if the others are made to fail. -/
theorem faultsIn_toParser_of_refsIn {P : Reference ρ → Prop}
    {env : {α : Type} → ρ α → Parser σ α}
    (henv : ∀ {α : Type} (r : ρ α), P ⟨α, r⟩ → (env r).FaultsIn Q) {g : Grammar σ ρ α}
    (hg : g.Plain) (hrefs : g.RefsIn P) : (g.toParser env).FaultsIn Q := by
  have heq : g.toParser env =
      g.toParser fun {α} (r : ρ α) => if P ⟨α, r⟩ then env r else fail :=
    Grammar.toParser_congr (fun r hr => (if_pos hr).symm) hrefs
  rw [heq]
  refine faultsIn_toParser (fun r => ?_) hg
  split
  · next hr => exact henv r hr
  · exact faultsIn_of_ends ends_fail

end Parser

/-! ## Faults of references -/

namespace Rules

variable {rules : Rules σ ρ}

/-- The fault is that of a reference without a definition, or whose rule has been given up. -/
def Blames (rules : Rules σ ρ) (f : Fault) : Prop :=
  ∃ (x : Reference ρ) (position : Nat),
    (rules.find x.2 = .unassigned ∧ f = .unassigned position) ∨
      (rules.find x.2 = .dropped ∧ f = .dropped position)

/-- A call meets no faults but those of references, however deep calls nest. -/
theorem faultsIn_call (hrules : rules.Plain) (depth : Nat) (r : ρ α) :
    (rules.call depth r).FaultsIn rules.Blames := by
  induction depth generalizing α with
  | zero => exact Parser.faultsIn_compatible.diverge
  | succ depth ih =>
    intro c f h
    cases hfind : rules.find r with
    | unassigned =>
      simp only [Parser.parse, call, hfind] at h
      cases h
      exact ⟨⟨α, r⟩, c.position, .inl ⟨hfind, rfl⟩⟩
    | dropped =>
      simp only [Parser.parse, call, hfind] at h
      cases h
      exact ⟨⟨α, r⟩, c.position, .inr ⟨hfind, rfl⟩⟩
    | known g =>
      rw [call_succ_of_known hfind] at h
      exact Parser.faultsIn_toParser (fun r' => ih r') (hrules r g hfind) c f h

/-- Where every reference that is called has a definition, calls meet no faults at all. -/
theorem faultsIn_call_of_closed (hrules : rules.Plain) (hclosed : rules.Closed) (depth : Nat)
    {r : ρ α} (hr : rules.Defines ⟨α, r⟩) : (rules.call depth r).FaultsIn fun _ => False := by
  induction depth generalizing α with
  | zero => exact Parser.faultsIn_compatible.diverge
  | succ depth ih =>
    obtain ⟨g, hg⟩ := hr
    rw [call_succ_of_known hg]
    exact Parser.faultsIn_toParser_of_refsIn (fun _ => ih) (hrules r g hg) (hclosed r g hg)

/-- Let a grammar and its rules be made of combinators. Then no run of it meets a fault, nor does
the reply when it is taken or looked at, but for that of a reference without a definition; if each
reference in it and in its rules has one, there are no faults. This is so however deep calls may
nest, and for the parser of the grammar. The text that a search is made in can be cut from the input
at every cursor. -/
theorem parser_meets (hrules : rules.Plain) {g : Grammar σ ρ α} (hg : g.Plain) :
    (∀ c f, (∃ depth, (g.toParser fun r => rules.call depth r).Meets c f) ∨
      (rules.parser g).Meets c f → rules.Blames f) ∧
    (rules.Closed → g.RefsIn rules.Defines → ∀ c f,
      (∀ depth, ¬ (g.toParser fun r => rules.call depth r).Meets c f) ∧
        ¬ (rules.parser g).Meets c f) ∧
    ∀ d : Cursor Char, d.remainingText? = some (String.ofList d.remaining) := by
  have hparser (c : Cursor σ) (f : Fault) (h : (rules.parser g).Meets c f) :
      (g.toParser fun r => rules.call (rules.depthFrom c) r).Meets c f := h
  refine ⟨?_, fun hclosed hrefs => ?_, Cursor.remainingText?_eq⟩
  · have hblames (depth : Nat) : (g.toParser fun r => rules.call depth r).FaultsIn rules.Blames :=
      Parser.faultsIn_toParser (faultsIn_call hrules depth) hg
    rintro c f (⟨depth, h⟩ | h)
    · exact hblames depth c f (Parser.meets_iff.1 h)
    · exact hblames _ c f (Parser.meets_iff.1 (hparser c f h))
  · have hnone (depth : Nat) :
        (g.toParser fun r => rules.call depth r).FaultsIn fun _ => False :=
      Parser.faultsIn_toParser_of_refsIn
        (fun _ hr => faultsIn_call_of_closed hrules hclosed depth hr) hg hrefs
    intro c f
    refine ⟨fun depth h => ?_, fun h => ?_⟩
    · exact hnone depth c f (Parser.meets_iff.1 h)
    · exact hnone _ c f (Parser.meets_iff.1 (hparser c f h))

end Rules

theorem closed_groupRules : groupRules.Closed := by
  intro α r g h
  cases r with
  | groups =>
    cases h
    exact ⟨group, rfl⟩
  | group =>
    cases h
    exact ⟨⟨⟨trivial, ⟨groups, rfl⟩⟩, trivial⟩, trivial⟩

/-- Where the input ends inside of a group the run fails and takes its input back, without a
fault. -/
theorem no_fault_of_groups :
    (∃ m, (groupRules.parser groups.attempt).run (.start 0 #['(', '(', ')']) =
      pure (.empty (.error m))) ∧
    ∀ f, ¬ (groupRules.parser groups.attempt).Meets (.start 0 #['(', '(', ')']) f := by
  have hg : groups.attempt.Plain := ⟨nofun, complete_groups.plain⟩
  obtain ⟨-, hnone, -⟩ := Rules.parser_meets complete_groupRules.plain hg
  exact ⟨⟨_, rfl⟩, fun f => (hnone closed_groupRules ⟨group, rfl⟩ _ f).2⟩

end ParserKit
