import ParserKit.Proofs.Contract
import ParserKit.Proofs.Grammar.References

/-!
# What failures expect

The expected set of a message is what its reader is told would have been accepted. No combinator
makes up a label: `label` puts in its own name, and the leaves have labels that are built in. So
every expectation of a failure can be found in the grammar, in a continuation, or in a rule that a
run may come to.

A message tells its reader nothing if its set is empty. The only leaf that expects nothing is
`fail`, also in the form of a choice without alternatives. Where each of them is named by a label
around it, every failure expects something: sets are replaced by a label, or put together, and
neither of these makes a set empty.

Both statements are about a condition on sets that unions keep, and which holds of the labels that
a grammar puts in. Repetition drops sets, and a consumed failure passes every label around it, but
no set is changed in any other way.

## Main definitions

* `Grammar.Mentions g name`: the name is one that the grammar itself puts into expected sets
* `Grammar.NamesFailures g`: every `fail` of the grammar stands directly under a label
* `Rules.LeadsTo rules g x`: a run of the grammar may come to the reference
* `Rules.Mentions`, `Rules.NamesFailures`: the same for a grammar with the rules it leads to
* `LabelLaw`: a condition on expected sets that unions keep

## Main results

* `LabelLaw.keeps_toParser`: the expected sets of a grammar meet the laws that its labels meet
* `Rules.parser_expected`: they hold names from the grammar, and are not empty if failures are named
-/

namespace ParserKit

variable {σ : Type} {ρ : Type → Type} {α β : Type}

/-! ## Names in grammars -/

namespace Grammar

/-- The name is that of a label in the grammar or in one behind its values, or is built into one of
their leaves. -/
def Mentions : {α : Type} → Grammar σ ρ α → String → Prop
  | _, .retn _, _ => False
  | _, .retnWith _, _ => False
  | _, .fail, _ => False
  | _, .satisfy _, name => name = predicateLabel
  | _, .eof, name => name = eofLabel
  | _, .scan m, name => name = m.label
  | _, .raw _, _ => False
  | _, .bind p k, name => p.Mentions name ∨ ∃ a, (k a).Mentions name
  | _, .map _ p, name => p.Mentions name
  | _, .seqRight p q, name => p.Mentions name ∨ q.Mentions name
  | _, .seqLeft p q, name => p.Mentions name ∨ q.Mentions name
  | _, .both p q, name => p.Mentions name ∨ q.Mentions name
  | _, .orElse p q, name => p.Mentions name ∨ q.Mentions name
  | _, .attempt p, name => p.Mentions name
  | _, .label name' p, name => name = name' ∨ p.Mentions name
  | _, .many p, name => p.Mentions name
  | _, .many1 p, name => p.Mentions name
  | _, .sepBy1 p sep, name => p.Mentions name ∨ sep.Mentions name
  | _, .delay make, name => (make ()).Mentions name
  | _, .ref _, _ => False

/-- Every `fail` in the grammar, and in those behind its values, stands directly under a label. A
choice without alternatives is a `fail`. -/
def NamesFailures : {α : Type} → Grammar σ ρ α → Prop
  | _, .retn _ => True
  | _, .retnWith _ => True
  | _, .fail => False
  | _, .satisfy _ => True
  | _, .eof => True
  | _, .scan _ => True
  | _, .raw _ => True
  | _, .bind p k => p.NamesFailures ∧ ∀ a, (k a).NamesFailures
  | _, .map _ p => p.NamesFailures
  | _, .seqRight p q => p.NamesFailures ∧ q.NamesFailures
  | _, .seqLeft p q => p.NamesFailures ∧ q.NamesFailures
  | _, .both p q => p.NamesFailures ∧ q.NamesFailures
  | _, .orElse p q => p.NamesFailures ∧ q.NamesFailures
  | _, .attempt p => p.NamesFailures
  | _, .label _ p => p = .fail ∨ p.NamesFailures
  | _, .many p => p.NamesFailures
  | _, .many1 p => p.NamesFailures
  | _, .sepBy1 p sep => p.NamesFailures ∧ sep.NamesFailures
  | _, .delay make => (make ()).NamesFailures
  | _, .ref _ => True

/-- References that are in each of many sets are in all of them. -/
theorem refsIn_sInter {C : (Reference ρ → Prop) → Prop} {g : Grammar σ ρ α}
    (h : ∀ P, C P → g.RefsIn P) : g.RefsIn fun x => ∀ P, C P → P x := by
  induction g with
  | retn | retnWith | fail | satisfy | eof | scan | raw => trivial
  | bind p k hp hk =>
    exact ⟨hp fun P hP => (h P hP).1, fun a => hk a fun P hP => (h P hP).2 a⟩
  | seqRight p q hp hq | seqLeft p q hp hq | both p q hp hq | orElse p q hp hq
  | sepBy1 p q hp hq => exact ⟨hp fun P hP => (h P hP).1, hq fun P hP => (h P hP).2⟩
  | map f p hp => exact hp h
  | attempt p hp => exact hp h
  | label name p hp => exact hp h
  | many p hp => exact hp h
  | many1 p hp => exact hp h
  | delay make hmake => exact hmake () h
  | ref r => exact h

end Grammar

/-! ## The rules that a grammar leads to -/

namespace Rules

/-- The set holds the references in the grammar, and with each reference those in its definition. -/
structure Covers (rules : Rules σ ρ) (g : Grammar σ ρ α) (P : Reference ρ → Prop) : Prop where
  refs : g.RefsIn P
  definitions : ∀ {β : Type} (r : ρ β) (h : Grammar σ ρ β), P ⟨β, r⟩ → rules.find r = .known h →
    h.RefsIn P

/-- A run of the grammar may come to the reference: it stands in the grammar, or in the definition
of another one that a run may come to. -/
def LeadsTo (rules : Rules σ ρ) (g : Grammar σ ρ α) (x : Reference ρ) : Prop :=
  ∀ P, rules.Covers g P → P x

/-- What a grammar leads to covers it: no step leads out of there. -/
theorem covers_leadsTo (rules : Rules σ ρ) (g : Grammar σ ρ α) :
    rules.Covers g (rules.LeadsTo g) where
  refs := Grammar.refsIn_sInter fun _ hP => hP.refs
  definitions r h hr hfind :=
    Grammar.refsIn_sInter fun P hP => hP.definitions r h (hr P hP) hfind

/-- The name occurs in the grammar, or in the definition of a rule that it leads to. -/
def Mentions (rules : Rules σ ρ) (g : Grammar σ ρ α) (name : String) : Prop :=
  g.Mentions name ∨ ∃ (β : Type) (r : ρ β) (h : Grammar σ ρ β),
    rules.LeadsTo g ⟨β, r⟩ ∧ rules.find r = .known h ∧ h.Mentions name

/-- Every `fail` in the grammar and in the rules that it leads to stands directly under a label. -/
def NamesFailures (rules : Rules σ ρ) (g : Grammar σ ρ α) : Prop :=
  g.NamesFailures ∧ ∀ {β : Type} (r : ρ β) (h : Grammar σ ρ β),
    rules.LeadsTo g ⟨β, r⟩ → rules.find r = .known h → h.NamesFailures

end Rules

/-! ## Laws of expected sets -/

/-- A condition on sets of labels that unions keep. -/
structure LabelLaw where
  /-- The condition. -/
  holds : Labels → Prop
  union : ∀ {s t}, holds s → holds t → holds (s.union t)

namespace LabelLaw

/-- All labels are in `P`. -/
def only (P : String → Prop) : LabelLaw where
  holds s := ∀ name ∈ s, P name
  union hs ht name h := (Labels.mem_union.1 h).elim (hs name) (ht name)

/-- There is a label. -/
def inhabited : LabelLaw where
  holds s := ∃ name, name ∈ s
  union hs _ := hs.imp fun _ h => Labels.mem_union.2 (.inl h)

variable {L : LabelLaw}

/-- The law holds of each label that the grammar puts in, and of the empty set unless every `fail`
is named. -/
structure Admits (L : LabelLaw) (g : Grammar σ ρ α) : Prop where
  names : ∀ name, g.Mentions name → L.holds (.singleton name)
  fails : L.holds ∅ ∨ g.NamesFailures

/-- If every name in a grammar is one of `P`, it can expect nothing else. -/
theorem only_admits {P : String → Prop} {g : Grammar σ ρ α} (h : ∀ name, g.Mentions name → P name) :
    (only P).Admits g where
  names name hname other hother := by
    obtain rfl : other = name := by simpa [Labels.mem_iff, Labels.singleton] using hother
    exact h other hname
  fails := .inl fun _ h => absurd h (List.not_mem_nil)

/-- A part of an admitted grammar is admitted. -/
theorem Admits.part {g : Grammar σ ρ α} {p : Grammar σ ρ β} (h : L.Admits g)
    (hnames : ∀ name, p.Mentions name → g.Mentions name)
    (hfails : g.NamesFailures → p.NamesFailures) : L.Admits p :=
  ⟨fun name hname => h.names name (hnames name hname), h.fails.imp_right hfails⟩

theorem inhabited_admits {g : Grammar σ ρ α} (h : g.NamesFailures) : inhabited.Admits g where
  names name _ := ⟨name, List.mem_singleton_self name⟩
  fails := .inr h

/-- The messages of all failures of the parser expect what the law allows. -/
def Keeps (L : LabelLaw) (p : Parser σ α) : Prop :=
  ∀ c t m, p.Gives c t (.error m) → L.holds m.expected

variable {p q : Parser σ α}

theorem keeps_retn (a : α) : L.Keeps (.retn a : Parser σ α) :=
  fun _ _ _ h => nomatch (Parser.gives_retn_iff.1 h).2

theorem keeps_fail (hempty : L.holds ∅) : L.Keeps (.fail : Parser σ α) := by
  intro c t m h
  obtain ⟨-, hm⟩ := Parser.gives_fail_iff.1 h
  cases hm
  exact hempty

theorem keeps_satisfy (hlabel : L.holds (.singleton predicateLabel)) (accepts : σ → Bool) :
    L.Keeps (.satisfy accepts) := by
  intro c t m h
  obtain ⟨_, _, -, -, -, -, hm⟩ | ⟨-, -, hm⟩ := Parser.gives_satisfy_iff.1 h
  · cases hm
  · cases hm
    exact hlabel

theorem keeps_eof (hlabel : L.holds (.singleton eofLabel)) : L.Keeps (.eof : Parser σ Unit) := by
  intro c t m h
  obtain ⟨-, hm⟩ := Parser.gives_eof_iff.1 h
  split at hm
  · cases hm
  · cases hm
    exact hlabel

theorem keeps_scan {s : Matcher σ} (hlabel : L.holds (.singleton s.label)) :
    L.Keeps (.scan s) := by
  intro c t m h
  obtain ⟨_, _, -, -, -, -, hm⟩ | ⟨-, -, hm⟩ | ⟨-, -, hm⟩ := Parser.gives_scan_iff.1 h
  · cases hm
  · cases hm
  · cases hm
    exact hlabel

theorem keeps_diverge : L.Keeps (.diverge : Parser σ α) :=
  fun _ _ _ h => absurd h Parser.not_gives_of_throw

theorem Keeps.bind {k : α → Parser σ β} (hp : L.Keeps p) (hk : ∀ a, L.Keeps (k a)) :
    L.Keeps (p.bind k) := by
  intro c t m h
  obtain ⟨a, d, -, hka⟩ | ⟨a, d, u, -, hka, -⟩ | ⟨n, hpn, hm⟩ := Parser.gives_bind_iff.1 h
  · exact hk a _ _ _ hka
  · exact hk a _ _ _ hka
  · cases hm
    exact hp _ _ _ hpn

theorem Keeps.map (f : α → β) (hp : L.Keeps p) : L.Keeps (p.map f) := by
  intro c t m h
  obtain ⟨r, hr, hm⟩ := Parser.gives_map_iff.1 h
  cases r with
  | ok a d => cases hm
  | error n =>
    cases hm
    exact hp _ _ _ hr

/-- A merged message expects what one of the two does, or what both do. -/
theorem holds_merge {m n : Message σ} (hm : L.holds m.expected) (hn : L.holds n.expected) :
    L.holds (m.merge n).expected := by
  unfold Message.merge
  split
  · exact hn
  · exact hm
  · exact L.union hm hn

theorem Keeps.orElse (hp : L.Keeps p) (hq : L.Keeps q) : L.Keeps (p.orElse q) := by
  intro c t m h
  obtain ⟨hpm, -⟩ | ⟨n, -, hqm, -⟩ | ⟨n, n', hpn, hqn, -, hm⟩ := Parser.gives_orElse_iff.1 h
  · exact hp _ _ _ hpm
  · exact hq _ _ _ hqm
  · cases hm
    exact holds_merge (hp _ _ _ hpn) (hq _ _ _ hqn)

theorem Keeps.attempt (hp : L.Keeps p) : L.Keeps p.attempt := by
  intro c t m h
  obtain ⟨hpm, -⟩ | ⟨n, hpn, -, hm⟩ := Parser.gives_attempt_iff.1 h
  · exact hp _ _ _ hpm
  · cases hm
    exact hp _ _ _ hpn

/-- Under a label only failures after consumption keep what they expect. -/
theorem keeps_label {name : String} (hname : L.holds (.singleton name))
    (hp : ∀ c m, p.Gives c true (.error m) → L.holds m.expected) : L.Keeps (p.label name) := by
  intro c t m h
  obtain ⟨hpm, hfinal⟩ | ⟨n, -, -, hm⟩ := Parser.gives_label_iff.1 h
  · cases t with
    | true => exact hp _ _ hpm
    | false => exact absurd hfinal Parser.not_final_error
  · cases hm
    exact hname

/-- A failure with a label expects that label. -/
theorem keeps_label_fail {name : String} (hname : L.holds (.singleton name)) :
    L.Keeps (Parser.label name (.fail : Parser σ α)) :=
  keeps_label hname fun _ _ h => nomatch (Parser.gives_fail_iff.1 h).1

/-- A repetition that fails does so with the message of one of its rounds. -/
theorem Keeps.repeats {vs : List α} {c : Cursor σ} {t : Bool} {m : Message σ} {n : Nat}
    (hp : L.Keeps p) (h : p.Repeats c vs t (.error m) n) : L.holds m.expected := by
  generalize hr : (Reply.error m : Reply σ (List α)) = r at h
  induction h with
  | stop => cases hr
  | fail hgives =>
    cases hr
    exact hp _ _ _ hgives
  | next _ _ ih => exact ih hr

theorem Keeps.repeatBehind (vs : List α) (hp : L.Keeps p) : L.Keeps (p.repeatBehind vs) := by
  intro c t m h
  obtain ⟨n, -, hrounds⟩ := Parser.gives_repeatBehind_iff.1 h
  exact hp.repeats hrounds

/-- The expected sets of a grammar meet a law if its own labels do, and its references. -/
theorem keeps_toParser {P : Reference ρ → Prop} {env : {α : Type} → ρ α → Parser σ α}
    (henv : ∀ {α : Type} (r : ρ α), P ⟨α, r⟩ → L.Keeps (env r)) {g : Grammar σ ρ α}
    (hg : g.Plain) (hrefs : g.RefsIn P) (h : L.Admits g) : L.Keeps (g.toParser env) := by
  induction g with
  | retn a => exact keeps_retn a
  | retnWith make => exact keeps_retn (make ())
  | fail => exact keeps_fail (h.fails.resolve_right id)
  | satisfy accepts => exact keeps_satisfy (h.names _ rfl) accepts
  | eof => exact keeps_eof (h.names _ rfl)
  | scan m => exact keeps_scan (h.names _ rfl)
  | raw p =>
    obtain rfl := hg.resolve_left (not_not_intro rfl)
    exact keeps_diverge
  | bind p k hp hk =>
    refine .bind (hp hg.1 hrefs.1 (h.part (fun _ => .inl) (·.1))) fun a => ?_
    exact hk a (hg.2 a) (hrefs.2 a) (h.part (fun _ hx => .inr ⟨a, hx⟩) (·.2 a))
  | map f p hp => exact .map f (hp hg hrefs (h.part (fun _ => id) id))
  | seqRight p q hp hq =>
    have hp := hp hg.1 hrefs.1 (h.part (fun _ => .inl) (·.1))
    have hq := hq hg.2 hrefs.2 (h.part (fun _ => .inr) (·.2))
    exact .bind hp fun _ => hq
  | seqLeft p q hp hq =>
    have hp := hp hg.1 hrefs.1 (h.part (fun _ => .inl) (·.1))
    have hq := hq hg.2 hrefs.2 (h.part (fun _ => .inr) (·.2))
    exact .bind hp fun a => .map (fun _ => a) hq
  | both p q hp hq =>
    have hp := hp hg.1 hrefs.1 (h.part (fun _ => .inl) (·.1))
    have hq := hq hg.2 hrefs.2 (h.part (fun _ => .inr) (·.2))
    exact .bind hp fun a => .map (fun b => (a, b)) hq
  | orElse p q hp hq =>
    have hp := hp hg.1 hrefs.1 (h.part (fun _ => .inl) (·.1))
    have hq := hq hg.2 hrefs.2 (h.part (fun _ => .inr) (·.2))
    exact .orElse hp hq
  | attempt p hp => exact .attempt (hp hg.2 hrefs (h.part (fun _ => id) id))
  | label name p hp =>
    have hname : L.holds (.singleton name) := h.names name (.inl rfl)
    by_cases hfail : p = .fail
    · -- a `fail` under the label needs no law of the empty set
      subst hfail
      exact keeps_label_fail hname
    · have hp := hp hg hrefs (h.part (fun _ => .inr) (·.resolve_left hfail))
      exact keeps_label hname fun c => hp c true
  | many p hp => exact .repeatBehind [] (hp hg hrefs (h.part (fun _ => id) id))
  | many1 p hp =>
    have hp := hp hg hrefs (h.part (fun _ => id) id)
    exact .bind hp fun a => .repeatBehind [a] hp
  | sepBy1 p sep hp hsep =>
    have hp := hp hg.1 hrefs.1 (h.part (fun _ => .inl) (·.1))
    have hsep := hsep hg.2 hrefs.2 (h.part (fun _ => .inr) (·.2))
    exact .bind hp fun a => .repeatBehind [a] (.bind hsep fun _ => hp)
  | delay make hmake => exact hmake () hg hrefs (h.part (fun _ => id) id)
  | ref r => exact henv r hrefs

/-- So do those of its parser, if the rules that it leads to are admitted as well. -/
theorem keeps_rules {rules : Rules σ ρ} (hrules : rules.Plain) {g : Grammar σ ρ α} (hg : g.Plain)
    (hadmits : L.Admits g) (hdefinitions : ∀ {β : Type} (r : ρ β) (h : Grammar σ ρ β),
      rules.LeadsTo g ⟨β, r⟩ → rules.find r = .known h → L.Admits h) :
    L.Keeps (rules.parser g) := by
  have hcovers := rules.covers_leadsTo g
  have hcall (depth : Nat) {β : Type} (r : ρ β) (hr : rules.LeadsTo g ⟨β, r⟩) :
      L.Keeps (rules.call depth r) := by
    induction depth generalizing β with
    | zero => exact keeps_diverge
    | succ depth ih =>
      unfold Rules.call
      cases hfind : rules.find r with
      | unassigned => exact fun _ _ _ h => absurd h Parser.not_gives_of_throw
      | dropped => exact fun _ _ _ h => absurd h Parser.not_gives_of_throw
      | known h =>
        exact keeps_toParser (fun r' => ih r') (hrules r h hfind) (hcovers.definitions r h hr hfind)
          (hdefinitions r h hr hfind)
  intro c t m hgives
  exact keeps_toParser (fun r => hcall (rules.depthFrom c) r) hg hcovers.refs hadmits c t m hgives

end LabelLaw

/-! ## The expectations of grammars -/

/-- Let a grammar and its rules be made of combinators. Whenever a run of it fails, each label in
the expected set of the message is the name of a label or built into a leaf, in the grammar or one
behind its values, or in a rule that it leads to. If every `fail` there stands directly under a
label, the set is not empty. -/
theorem Rules.parser_expected (rules : Rules σ ρ) (hrules : rules.Plain) (g : Grammar σ ρ α)
    (hg : g.Plain) (c : Cursor σ) (o : Outcome Id σ α) (m : Message σ)
    (hrun : (rules.parser g).run c = pure o) (hreply : o.takeReply = pure (.error m)) :
    (∀ name ∈ m.expected, rules.Mentions g name) ∧
      (rules.NamesFailures g → ∃ name, name ∈ m.expected) := by
  have hgives : (rules.parser g).Gives c o.isConsumed (.error m) := ⟨o, hrun, rfl, hreply⟩
  constructor
  · have hkeeps : (LabelLaw.only (rules.Mentions g)).Keeps (rules.parser g) :=
      LabelLaw.keeps_rules hrules hg (LabelLaw.only_admits fun _ => .inl) fun r h hr hfind =>
        LabelLaw.only_admits fun _ hname => .inr ⟨_, r, h, hr, hfind, hname⟩
    exact hkeeps _ _ _ hgives
  · rintro ⟨hnamed, hdefinitions⟩
    have hkeeps : LabelLaw.inhabited.Keeps (rules.parser g) :=
      LabelLaw.keeps_rules hrules hg (LabelLaw.inhabited_admits hnamed) fun r h hr hfind =>
        LabelLaw.inhabited_admits (hdefinitions r h hr hfind)
    exact hkeeps _ _ _ hgives

/-- Two brackets around nothing, and no other nesting. -/
def twofold : Grammar Char NestingRef Nat :=
  (Grammar.ref .nesting).bind fun depth =>
    if depth = 2 then .retn depth else Grammar.fail.label "two brackets"

theorem plain_twofold : twofold.Plain := by
  refine ⟨trivial, fun depth => ?_⟩
  dsimp only
  split <;> trivial

theorem namesFailures_twofold : nestingRules.NamesFailures twofold := by
  refine ⟨⟨trivial, fun depth => ?_⟩, fun r h _ hfind => ?_⟩
  · dsimp only
    split
    · trivial
    · exact .inl rfl
  · cases r
    cases hfind
    exact ⟨⟨⟨.inr trivial, trivial⟩, .inr trivial⟩, trivial⟩

/-- What is expected comes from the continuation where the nesting is another one, and from the rule
where a bracket is not closed. -/
theorem expected_of_twofold :
    (∃ o m, (nestingRules.parser twofold).run (.start 0 #['(', ')']) = pure o ∧
      o.takeReply = pure (.error m) ∧ m.expected.toList = ["two brackets"] ∧
      (∀ name ∈ m.expected, nestingRules.Mentions twofold name) ∧ ∃ name, name ∈ m.expected) ∧
    (∃ o m, (nestingRules.parser twofold).run (.start 0 #['(', 'x']) = pure o ∧
      o.takeReply = pure (.error m) ∧ m.expected.toList = ["')'"] ∧
      (∀ name ∈ m.expected, nestingRules.Mentions twofold name) ∧ ∃ name, name ∈ m.expected) := by
  constructor
  · obtain ⟨hnames, hsome⟩ := Rules.parser_expected _ plain_nestingRules _ plain_twofold
      (.start 0 #['(', ')']) _ _ rfl rfl
    exact ⟨_, _, rfl, rfl, rfl, hnames, hsome namesFailures_twofold⟩
  · obtain ⟨hnames, hsome⟩ := Rules.parser_expected _ plain_nestingRules _ plain_twofold
      (.start 0 #['(', 'x']) _ _ rfl rfl
    exact ⟨_, _, rfl, rfl, rfl, hnames, hsome namesFailures_twofold⟩

end ParserKit
