import ParserKit.Proofs.Contract

/-!
# Messages tell the truth

The message of a failure names a place that the parse has reached and the symbol that stands
there. On its way up a message may be merged with others, be given another label, lose the
consumption it came after, or come out of a deferred reply; in each of these steps its position
and its symbol stay together, and they stay those of the input.

## Main definitions

* `Message.TruthfulAbout s m`: the symbol of the message is the one at its position in `s`
* `MessageLaw.truthful`: messages are truthful, and not before the place where the run began

## Main results

* `Rules.parser_message`: the messages of a grammar are truthful; those after consumption lie
  strictly further along
-/

namespace ParserKit

variable {σ : Type} {ρ : Type → Type} {α : Type} {s : Source σ} {m n : Message σ}

namespace Message

/-- The message is about a place of the source, and names the symbol there. -/
def TruthfulAbout (s : Source σ) (m : Message σ) : Prop :=
  m.position ≤ s.symbols.size ∧ m.unexpected = s.symbols[m.position]?

theorem truthful_on (c : Cursor σ) : (Message.on c).TruthfulAbout c.source :=
  ⟨c.position_le, c.peek_eq_getElem?⟩

/-- The symbol is missing exactly in messages on the end of the input. -/
theorem TruthfulAbout.unexpected_eq_none_iff (h : m.TruthfulAbout s) :
    m.unexpected = none ↔ m.position = s.symbols.size := by
  rw [h.2, Array.getElem?_eq_none_iff]
  have hle := h.1
  omega

/-- The position and the symbol of a merged message come from the same message. -/
theorem merge_cases (m n : Message σ) :
    ((m.merge n).position = m.position ∧ (m.merge n).unexpected = m.unexpected) ∨
      (m.merge n = n ∧ m.position < n.position) := by
  unfold merge
  split
  · next h => exact .inr ⟨rfl, Nat.compare_eq_lt.1 h⟩
  · exact .inl ⟨rfl, rfl⟩
  · exact .inl ⟨rfl, rfl⟩

theorem le_position_merge (m n : Message σ) : m.position ≤ (m.merge n).position := by
  rcases merge_cases m n with ⟨hp, -⟩ | ⟨hn, hlt⟩
  · exact Nat.le_of_eq hp.symm
  · rw [hn]
    exact Nat.le_of_lt hlt

theorem TruthfulAbout.merge (hm : m.TruthfulAbout s) (hn : n.TruthfulAbout s) :
    (m.merge n).TruthfulAbout s := by
  rcases merge_cases m n with ⟨hp, hu⟩ | ⟨h, -⟩
  · unfold TruthfulAbout
    rw [hp, hu]
    exact hm
  · rw [h]
    exact hn

end Message

/-- Messages tell the truth about the source, and lie at or behind the place where the run began,
behind it after consumption. -/
def MessageLaw.truthful : MessageLaw σ where
  holds t c m := m.TruthfulAbout c.source ∧ c.position ≤ m.position ∧
    (t = true → c.position < m.position)
  on c := ⟨Message.truthful_on c, Nat.le_refl _, nofun⟩
  expecting c _ := ⟨Message.truthful_on c, Nat.le_refl _, nofun⟩
  relabel h _ := h
  merge {c m n} hm hn :=
    ⟨hm.1.merge hn.1, Nat.le_trans hm.2.1 (Message.le_position_merge m n), nofun⟩
  behind {t c d m} hcd h := by
    obtain ⟨htrue, hle, -⟩ := h
    -- the run began before `d`, and the message does not lie before `d`
    have hlt : c.position < m.position := Nat.lt_of_lt_of_le hcd.2 hle
    exact ⟨hcd.1 ▸ htrue, Nat.le_of_lt hlt, fun _ => hlt⟩

/-- An attempt keeps the position of a failure, and the bound that it takes back is the stronger
one. -/
theorem MessageLaw.truthful_forgives : (truthful : MessageLaw σ).Forgives :=
  fun h => ⟨h.1, h.2.1, nofun⟩

/-- Whenever a run ends in a failure, the message is about a place between the beginning of the run
and the end of the input, and names the symbol there; after consumption the place is not that
where the run began. -/
theorem Rules.parser_message (rules : Rules σ ρ) (hrules : rules.Plain) (g : Grammar σ ρ α)
    (hg : g.Plain) (c : Cursor σ) (o : Outcome Id σ α) (m : Message σ)
    (hrun : (rules.parser g).run c = pure o) (hreply : o.takeReply = pure (.error m)) :
    c.position ≤ m.position ∧ m.position ≤ c.length ∧
      m.unexpected = c.source.symbols[m.position]? ∧
      (m.unexpected = none ↔ m.position = c.length) ∧
      (o.isConsumed = true → c.position < m.position) := by
  have hkeeps : MessageLaw.truthful.Keeps (rules.parser g) :=
    Rules.parser_keeps (not_not_intro rfl) (fun _ => MessageLaw.truthful_forgives) hrules hg
  obtain ⟨htrue, hle, hlt⟩ := hkeeps ⟨o, hrun, rfl, hreply⟩
  exact ⟨hle, htrue.1, htrue.2, htrue.unexpected_eq_none_iff, hlt⟩

/-- A bracket that is not closed is reported where the closing one is missing. -/
theorem message_of_nesting :
    ∃ o m, (nestingRules.parser nesting).run (.start 0 #['(', '(', 'x']) = pure o ∧
      o.takeReply = pure (.error m) ∧ o.isConsumed = true ∧ 0 < m.position ∧
        m.position ≤ 3 ∧ m.unexpected = #['(', '(', 'x'][m.position]? := by
  have hg : nesting.Plain := plain_nestingRules .nesting nesting rfl
  obtain ⟨-, hle, hsymbol, -, hlt⟩ :=
    Rules.parser_message _ plain_nestingRules _ hg (.start 0 #['(', '(', 'x']) _ _ rfl rfl
  exact ⟨_, _, rfl, rfl, rfl, hlt rfl, hle, hsymbol⟩

end ParserKit
