import ParserKit.Grammar.Pattern
import ParserKit.Proofs.Parser.Results

/-!
# Patterns and the cursor

The search for a pattern gives what the engine has found in the remaining text, and moves the cursor
by its length. It does not look where the match lies. So what is given is the text that the cursor
moves over if it stands at the cursor, and only then: the anchor in front of the pattern has to see
to it that a match lies nowhere else.

A pattern is put behind the anchor as it is written. One that closes the group around it and opens
another one has a branch without an anchor.

## Main definitions

* `Parser.ReadsAtCursor`: texts that a parser gives are those that it moves over
* `Grammar.twoPatterns`: an engine with a pattern that stays in its group, and one that gets out

## Main results

* `Grammar.gives_regex_ok_iff`, `Grammar.gives_regex_error_iff`: what the search for a pattern does
* `Grammar.regex_at_cursor_iff`: when it reads at the cursor
* `Grammar.regex_not_at_cursor`: a pattern for which it does not
-/

namespace ParserKit

/-! ## Texts that are read -/

namespace Parser

variable {σ : Type} {m : Matcher σ} {c d : Cursor σ} {t : Bool} {ys : List σ}

/-- A search succeeds with what is found, and moves the cursor by the length of it. -/
theorem gives_scan_ok_iff :
    (scan m).Gives c t (.ok ys d) ↔ m.find c.remaining = some ys ∧ d.source = c.source ∧
      d.position = c.position + ys.length ∧ (t = true ↔ ys ≠ []) := by
  rw [gives_scan_iff]
  constructor
  · rintro (⟨ys, d, hfind, hne, hd, rfl, h⟩ | ⟨hfind, rfl, h⟩ | ⟨-, -, h⟩)
    · cases h
      obtain ⟨hsource, hposition⟩ := Cursor.advanceBy_eq_ok_iff.1 hd
      exact ⟨hfind, hsource, hposition, iff_of_true rfl hne⟩
    · cases h
      exact ⟨hfind, rfl, rfl, iff_of_false nofun (not_not_intro rfl)⟩
    · cases h
  · rintro ⟨hfind, hsource, hposition, ht⟩
    by_cases hne : ys = []
    · subst hne
      obtain rfl : d = c := Cursor.eq_of_position hsource hposition
      exact .inr (.inl ⟨hfind, by simpa using ht, rfl⟩)
    · exact .inl ⟨ys, d, hfind, hne, Cursor.advanceBy_eq_ok_iff.2 ⟨hsource, hposition⟩,
        ht.2 hne, rfl⟩

/-- Where nothing is found a search fails. -/
theorem gives_scan_error_iff {e : Message σ} :
    (scan m).Gives c t (.error e) ↔
      m.find c.remaining = none ∧ t = false ∧ e = .expecting c m.label := by
  rw [gives_scan_iff]
  simp

/-- A text that the parser gives is the input between the cursors before and behind it, and input is
consumed exactly if it is not empty. -/
def ReadsAtCursor (p : Parser Char String) : Prop :=
  ∀ (c : Cursor Char) (consumed : Bool) (t : String) (d : Cursor Char),
    p.Gives c consumed (.ok t d) →
      d.source = c.source ∧ d.position = c.position + t.toList.length ∧
        c.remaining = t.toList ++ d.remaining ∧ (consumed = true ↔ t ≠ "")

end Parser

namespace Grammar

open Regex

variable {ρ : Type → Type} (env : {α : Type} → ρ α → Parser Char α) {engine : Engine}
  {p : Pattern engine} {c d : Cursor Char} {consumed : Bool} {t : String} {e : Message Char}

/-! ## What a search does -/

/-- The search for a pattern succeeds with what the engine has found, wherever it lies. It moves the
cursor by the length of it, and consumes input exactly if that is not zero. -/
theorem gives_regex_ok_iff :
    ((regex p).toParser env).Gives c consumed (.ok t d) ↔
      ∃ m, engine.search p.program c.remaining = some m ∧ m.found = t.toList ∧
        d.source = c.source ∧ d.position = c.position + t.toList.length ∧
          (consumed = true ↔ t ≠ "") := by
  have hreply (r : Reply Char (List Char)) :
      Reply.ok t d = r.map String.ofList ↔ r = .ok t.toList d := by
    cases r with
    | ok ys e =>
      constructor
      · rintro ⟨⟩
        rw [String.toList_ofList]
      · rintro ⟨⟩
        rw [Reply.map, String.ofList_toList]
    | error e => exact ⟨nofun, nofun⟩
  have hfind : p.matcher.find c.remaining = some t.toList ↔
      ∃ m, engine.search p.program c.remaining = some m ∧ m.found = t.toList :=
    Option.map_eq_some_iff
  simp only [regex, toParser, Parser.gives_map_iff, hreply, exists_eq_right,
    Parser.gives_scan_ok_iff, hfind, ne_eq, String.toList_eq_nil_iff]
  exact ⟨fun ⟨⟨m, hm, hfound⟩, h⟩ => ⟨m, hm, hfound, h⟩,
    fun ⟨m, hm, hfound, h⟩ => ⟨⟨m, hm, hfound⟩, h⟩⟩

/-- Where the engine finds nothing the search fails without consuming input, and expects the
pattern. -/
theorem gives_regex_error_iff :
    ((regex p).toParser env).Gives c consumed (.error e) ↔
      engine.search p.program c.remaining = none ∧ consumed = false ∧
        e = .expecting c ("/" ++ p.text ++ "/") := by
  have hreply (r : Reply Char (List Char)) :
      Reply.error e = r.map String.ofList ↔ r = .error e := by
    cases r with
    | ok ys e => exact ⟨nofun, nofun⟩
    | error e => rw [Reply.map, Reply.error.injEq, Reply.error.injEq, eq_comm]
  have hfind : p.matcher.find c.remaining = none ↔ engine.search p.program c.remaining = none :=
    Option.map_eq_none_iff
  simp only [regex, toParser, Parser.gives_map_iff, hreply, exists_eq_right,
    Parser.gives_scan_error_iff, hfind]
  rfl

/-! ## Where the match lies -/

/-- What is found is the text that the cursor moves over if it stands at the cursor. -/
theorem remaining_eq_append_iff (hsource : d.source = c.source)
    (hposition : d.position = c.position + t.toList.length) :
    c.remaining = t.toList ++ d.remaining ↔ t.toList <+: c.remaining := by
  have hdrop : d.remaining = c.remaining.drop t.toList.length := by
    rw [← d.drop_eq, hsource, hposition, ← List.drop_drop, c.drop_eq]
  rw [hdrop, List.prefix_iff_eq_append, eq_comm]

/-- Whatever the engine finds in a text is given at the start of an input of its own. -/
theorem exists_gives_regex {text : List Char} {m : Match text}
    (hm : engine.search p.program text = some m) :
    ∃ d : Cursor Char, ((regex p).toParser env).Gives (.start 0 text.toArray) (!m.found.isEmpty)
      (.ok (String.ofList m.found) d) := by
  have hle : m.found.length ≤ (Cursor.start 0 text.toArray).left :=
    (Cursor.start 0 text.toArray).length_remaining ▸ m.found_isInfix.length_le
  obtain ⟨d, hd⟩ := Cursor.exists_advanceBy hle
  obtain ⟨hsource, hposition⟩ := Cursor.advanceBy_eq_ok_iff.1 hd
  refine ⟨d, (gives_regex_ok_iff env).2 ⟨m, hm, ?_⟩⟩
  rw [String.toList_ofList]
  exact ⟨rfl, hsource, hposition, by simp⟩

/-- The search for a pattern reads at the cursor, on every input, exactly if the engine finds
nothing that does not stand at the front of the text. -/
theorem readsAtCursor_regex_iff :
    ((regex p).toParser env).ReadsAtCursor ↔
      ∀ (text : List Char) (m : Match text), engine.search p.program text = some m →
        m.found <+: text := by
  constructor
  · intro h text m hm
    obtain ⟨d, hgives⟩ := exists_gives_regex env hm
    obtain ⟨-, -, hremaining, -⟩ := h _ _ _ d hgives
    rw [String.toList_ofList] at hremaining
    exact ⟨d.remaining, hremaining.symm⟩
  · intro h c consumed t d hgives
    obtain ⟨m, hm, hfound, hsource, hposition, hconsumed⟩ := (gives_regex_ok_iff env).1 hgives
    have hprefix := h c.remaining m hm
    rw [hfound] at hprefix
    exact ⟨hsource, hposition, (remaining_eq_append_iff hsource hposition).2 hprefix, hconsumed⟩

/-- The search for a pattern gives what the engine has found in the remaining text, moves the cursor
by the length of it, and consumes input exactly if that is not zero; where nothing is found it fails
and expects the pattern. So it reads at the cursor, on every input, exactly if the engine finds
nothing that does not stand at the front of the text. -/
theorem regex_at_cursor_iff (p : Pattern engine) :
    (∀ c consumed t d, ((regex p).toParser env).Gives c consumed (.ok t d) ↔
      ∃ m, engine.search p.program c.remaining = some m ∧ m.found = t.toList ∧
        d.source = c.source ∧ d.position = c.position + t.toList.length ∧
          (consumed = true ↔ t ≠ "")) ∧
    (∀ c consumed e, ((regex p).toParser env).Gives c consumed (.error e) ↔
      engine.search p.program c.remaining = none ∧ consumed = false ∧
        e = .expecting c ("/" ++ p.text ++ "/")) ∧
    (((regex p).toParser env).ReadsAtCursor ↔
      ∀ (text : List Char) (m : Match text), engine.search p.program text = some m →
        m.found <+: text) :=
  ⟨fun _ _ _ _ => gives_regex_ok_iff env, fun _ _ _ => gives_regex_error_iff env,
    readsAtCursor_regex_iff env⟩

/-! ## A pattern that gets out of its group -/

/-- An engine that knows two patterns. The program of the first one matches an `a` at the start of
the text. The second one closes the group around it and opens another one, and its program matches
an `a` at the start, or else the first `b`. -/
def twoPatterns : Engine where
  Program := Bool
  compile? text :=
    if text = "^(?:a)" then some false
    else if text = "^(?:a)|(?:b)" then some true
    else none
  search orB text :=
    match text with
    | 'a' :: behind => some ⟨[], ['a'], behind, rfl⟩
    | text =>
      match h : text.dropWhile (· != 'b') with
      | b :: behind =>
        if orB then
          some ⟨text.takeWhile (· != 'b'), [b], behind, by
            rw [List.append_assoc, List.singleton_append, ← h, List.takeWhile_append_dropWhile]⟩
        else none
      | [] => none

/-- A pattern that stays in its group. -/
def staying : Pattern twoPatterns := ⟨"a", false, rfl⟩

/-- A pattern that gets out of it. -/
def escaping : Pattern twoPatterns := ⟨"a)|(?:b", true, rfl⟩

/-- The search for a pattern by itself. -/
def regexAlone (p : Pattern engine) : Parser Char String :=
  (regex p : Grammar Char (fun _ => Empty) String).toParser fun r => r.elim

/-- The pattern that stays in its group is matched at the cursor. -/
theorem regex_at_cursor_iff_of_staying :
    (regexAlone staying).ReadsAtCursor ∧
    ∃ d, (regexAlone staying).Gives (.start 0 #['a', 'b']) true (.ok "a" d) ∧
      d.remaining = ['b'] := by
  obtain ⟨hok, -, hiff⟩ := regex_at_cursor_iff (fun r : Empty => r.elim) staying
  refine ⟨hiff.2 fun text m hm => ?_, ⟨⟨0, #['a', 'b']⟩, 1, ['b'], rfl, by decide⟩, ?_, rfl⟩
  · simp only [staying, twoPatterns] at hm
    split at hm
    · cases hm
      exact ⟨_, rfl⟩
    · split at hm
      · cases hm
      · cases hm
  · exact (hok _ _ _ _).2 ⟨⟨[], ['a'], ['b'], rfl⟩, rfl, rfl, rfl, rfl, by decide⟩

/-- The pattern that gets out of its group is matched behind the cursor, and the cursor moves over a
text that is not the match. -/
theorem regex_not_at_cursor :
    ¬ (regexAlone escaping).ReadsAtCursor ∧
    ∃ d, (regexAlone escaping).Gives (.start 0 #['x', 'b']) true (.ok "b" d) ∧ d.position = 1 ∧
      (Cursor.start 0 #['x', 'b']).remaining.take d.position = ['x'] := by
  have hgives : (regexAlone escaping).Gives (.start 0 #['x', 'b']) true
      (.ok "b" ⟨⟨0, #['x', 'b']⟩, 1, ['b'], rfl, by decide⟩) :=
    (gives_regex_ok_iff _).2 ⟨⟨['x'], ['b'], [], rfl⟩, rfl, rfl, rfl, rfl, by decide⟩
  refine ⟨fun h => ?_, _, hgives, rfl, rfl⟩
  obtain ⟨-, -, hremaining, -⟩ := h _ _ _ _ hgives
  cases hremaining

end Grammar

end ParserKit
