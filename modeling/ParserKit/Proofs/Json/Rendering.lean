import Mathlib.Algebra.Group.Nat.Defs
import Mathlib.Data.List.Basic
import Mathlib.Data.List.Induction
import Mathlib.Data.List.Nodup
import ParserKit.Json
import ParserKit.Proofs.Parser.Reading

/-!
# Renderings of JSON trees

A tree can be written down in many ways: any number of blanks may follow each token, and a
character of a text can be written as it is or by one of its escapes. `Json.Renders` relates a tree
to all its renderings. It has no clause for numbers, so only trees without numbers have one.

Writing an object down keeps repeated names. `Json.Node.tidied` is what a reader makes of it: each
name once, where it occurred first, with the value that came last.

## Main definitions

* `Json.Spelled c t`: `t` spells the character `c` inside a text
* `Json.Lexeme w t`: `t` is the token `w` and blanks
* `Json.Renders node t`, `Json.IsDocument node t`: renderings, without and with blanks before them
* `Json.latest`, `Json.Node.tidied`: every name once, with its last value

## Main results

* `Json.ofMembers_eq_latest`: putting members in one after the other keeps the latest
* `Json.Renders.exists_cons`: a rendering begins with one of six characters
-/

namespace ParserKit.Json

/-! ## Tokens -/

/-- A run of blanks. -/
def Blanks (t : List Char) : Prop := ∀ c ∈ t, Text.isBlank c = true

/-- A token, and the blanks behind it. -/
def Lexeme (w t : List Char) : Prop := ∃ bs, Blanks bs ∧ t = w ++ bs

theorem Lexeme.ne_nil {x : Char} {w t : List Char} (h : Lexeme (x :: w) t) : t ≠ [] := by
  obtain ⟨bs, -, rfl⟩ := h
  exact List.cons_ne_nil _ _

theorem Lexeme.exists_cons {x : Char} {w t : List Char} (h : Lexeme (x :: w) t) :
    ∃ u, t = x :: u := by
  obtain ⟨bs, -, rfl⟩ := h
  exact ⟨w ++ bs, rfl⟩

theorem Lexeme.length_pos {x : Char} {w t : List Char} (h : Lexeme (x :: w) t) : 0 < t.length :=
  List.length_pos_of_ne_nil h.ne_nil

/-- The letters of the short escapes, and the characters they denote. -/
def shortEscapes : List (Char × Char) :=
  [('"', '"'), ('\\', '\\'), ('/', '/'), ('b', '\x08'), ('f', '\x0c'), ('n', '\n'), ('r', '\r'),
    ('t', '\t')]

/-- The hexadecimal digits in lower and upper case, and their values. -/
def hexDigits : List (Char × Nat) :=
  "0123456789abcdef".toList.zip (List.range 16) ++ "0123456789ABCDEF".toList.zip (List.range 16)

/-- The ways to spell a character inside a text. -/
inductive Spelled : Char → List Char → Prop where
  /-- As it is, unless it is a quote or a backslash. -/
  | literal {c : Char} (hquote : c ≠ '"') (hslash : c ≠ '\\') : Spelled c [c]
  /-- By a letter behind a backslash. -/
  | short {c e : Char} (h : (e, c) ∈ shortEscapes) : Spelled c ['\\', e]
  /-- By the four digits of its code. -/
  | code {c x₀ x₁ x₂ x₃ : Char} {n₀ n₁ n₂ n₃ : Nat} (h₀ : (x₀, n₀) ∈ hexDigits)
      (h₁ : (x₁, n₁) ∈ hexDigits) (h₂ : (x₂, n₂) ∈ hexDigits) (h₃ : (x₃, n₃) ∈ hexDigits)
      (hc : c.toNat = n₀ * 16 ^ 3 + n₁ * 16 ^ 2 + n₂ * 16 + n₃) :
      Spelled c ['\\', 'u', x₀, x₁, x₂, x₃]

theorem Spelled.ne_nil {c : Char} {t : List Char} (h : Spelled c t) : t ≠ [] := by
  cases h <;> exact List.cons_ne_nil _ _

/-- A text in quotes, and the blanks behind it. -/
def Quoted (s : String) (t : List Char) : Prop :=
  ∃ body, Sequence Spelled s.toList body ∧ Lexeme ('"' :: body ++ ['"']) t

/-! ## Values -/

/-- A name, a colon and the value. -/
inductive Member (P : Node → List Char → Prop) : String × Node → List Char → Prop where
  /-- The texts of the three, one after the other. -/
  | mk {name : String} {node : Node} {t s u : List Char} (hname : Quoted name t)
      (hcolon : Lexeme [':'] s) (hvalue : P node u) : Member P (name, node) (t ++ (s ++ u))

/-- The value of a member is no longer than the whole. -/
theorem Member.bounded {P : Node → List Char → Prop} {m : String × Node} {t : List Char} {n : Nat}
    (h : Member P m t) (hn : t.length ≤ n) : Member (fun v u => P v u ∧ u.length ≤ n) m t := by
  obtain ⟨hname, hcolon, hvalue⟩ := h
  simp only [List.length_append] at hn
  exact ⟨hname, hcolon, hvalue, by omega⟩

/-- The renderings of a tree without numbers. -/
inductive Renders : Node → List Char → Prop where
  | null {t : List Char} (h : Lexeme "null".toList t) : Renders .null t
  | bool {b : Bool} {t : List Char} (h : Lexeme (if b then "true" else "false").toList t) :
      Renders (.bool b) t
  | text {s : String} {t : List Char} (h : Quoted s t) : Renders (.text s) t
  | array {items : List Node} {o t s : List Char} (hopen : Lexeme ['['] o)
      (h : Separated (Lexeme [',']) Renders items t) (hclose : Lexeme [']'] s) :
      Renders (.array items) (o ++ t ++ s)
  | object {members : List (String × Node)} {o t s : List Char} (hopen : Lexeme ['\x7b'] o)
      (h : Separated (Lexeme [',']) (Member Renders) members t) (hclose : Lexeme ['\x7d'] s) :
      Renders (.object members) (o ++ t ++ s)

/-- A rendering with blanks before it. -/
def IsDocument (node : Node) (t : List Char) : Prop :=
  ∃ bs u, Blanks bs ∧ Renders node u ∧ t = bs ++ u

theorem Quoted.exists_cons {s : String} {t : List Char} (h : Quoted s t) : ∃ u, t = '"' :: u := by
  obtain ⟨body, -, h⟩ := h
  exact h.exists_cons

/-- A rendering begins with the first character of its first token. -/
theorem Renders.exists_cons {node : Node} {t : List Char} (h : Renders node t) :
    ∃ x u, t = x :: u ∧ x ∈ ['n', 't', 'f', '"', '[', '\x7b'] := by
  cases h with
  | null h | text h =>
    obtain ⟨u, rfl⟩ := h.exists_cons
    exact ⟨_, u, rfl, by decide⟩
  | @bool b _ h =>
    cases b <;> obtain ⟨u, rfl⟩ := h.exists_cons <;> exact ⟨_, u, rfl, by decide⟩
  | array hopen h hclose | object hopen h hclose =>
    obtain ⟨u, rfl⟩ := hopen.exists_cons
    exact ⟨_, _, rfl, by decide⟩

/-! ## Every name once -/

/-- The names that have a value, with their values. -/
def entries (names : List String) (find : String → Option Node) : List (String × Node) :=
  names.filterMap fun name => (find name).map fun value => (name, value)

/-- Each name once, in the order of their first occurrences, with the value of its last. -/
def latest (members : List (String × Node)) : List (String × Node) :=
  entries (members.map Prod.fst).eraseDups fun name => members.reverse.lookup name

theorem eraseDups_concat (names : List String) (name : String) :
    (names ++ [name]).eraseDups =
      if name ∈ names then names.eraseDups else names.eraseDups ++ [name] := by
  rw [List.eraseDups_append]
  by_cases h : name ∈ names <;> simp [List.removeAll, List.eraseDups_cons, h]

theorem nodup_eraseDups (names : List String) : names.eraseDups.Nodup := by
  induction names using List.reverseRecOn with
  | nil => exact List.nodup_nil
  | append_singleton names name ih =>
    rw [eraseDups_concat]
    split
    · exact ih
    · next h =>
      rw [← List.concat_eq_append]
      exact ih.concat fun hmem => h (List.mem_eraseDups.1 hmem)

/-- Putting a value under a name that occurs changes the value there. -/
theorem put_entries_of_mem {names : List String} {name : String} {find : String → Option Node}
    {value : Node} (hnodup : names.Nodup) (hmem : name ∈ names) (hfind : (find name).isSome) :
    put name value (entries names find) =
      entries names fun n => if n = name then some value else find n := by
  induction names with
  | nil => cases hmem
  | cons n names ih =>
    obtain ⟨hn, hnodup⟩ := List.nodup_cons.1 hnodup
    by_cases heq : n = name
    · subst heq
      obtain ⟨old, hold⟩ := Option.isSome_iff_exists.1 hfind
      -- the name does not occur again, so the values behind it are left alone
      have hrest : entries names (fun m => if m = n then some value else find m) =
          entries names find := by
        refine List.filterMap_congr fun m hm => ?_
        have hne : m ≠ n := fun h => hn (h ▸ hm)
        simp only [if_neg hne]
      simp only [entries] at hrest
      simp [entries, hold, put, hrest]
    · have ih := ih hnodup ((List.mem_cons.1 hmem).resolve_left (Ne.symm heq))
      simp only [entries] at ih
      cases hold : find n with
      | none => simp [entries, hold, heq, ih]
      | some old => simp [entries, hold, heq, put, ih]

/-- Putting a value under a new name puts it behind all others. -/
theorem put_entries_of_not_mem {names : List String} {name : String}
    (find : String → Option Node) (value : Node) (hmem : name ∉ names) :
    put name value (entries names find) = entries names find ++ [(name, value)] := by
  induction names with
  | nil => rfl
  | cons n names ih =>
    rw [List.mem_cons, not_or] at hmem
    have ih := ih hmem.2
    simp only [entries] at ih
    cases hold : find n with
    | none => simp [entries, hold, ih]
    | some old => simp [entries, hold, put, Ne.symm hmem.1, ih]

/-- One more member changes the last value of its name, and no other. -/
theorem latest_concat (members : List (String × Node)) (name : String) (value : Node) :
    latest (members ++ [(name, value)]) = put name value (latest members) := by
  have hfind (n : String) : (members ++ [(name, value)]).reverse.lookup n =
      if n = name then some value else members.reverse.lookup n := by
    rw [List.reverse_concat, List.lookup_cons]
    by_cases h : n = name
    · simp [h]
    · simp [h, beq_eq_false_iff_ne.2 h]
  simp only [latest, hfind, List.map_append, List.map_cons, List.map_nil, eraseDups_concat]
  split
  · next hmem =>
    -- the name has occurred, so it has a value
    have hsome : (members.reverse.lookup name).isSome := by
      obtain ⟨m, hm, rfl⟩ := List.mem_map.1 hmem
      exact List.lookup_isSome_iff.2 ⟨m, List.mem_reverse.2 hm, beq_self_eq_true _⟩
    exact (put_entries_of_mem (nodup_eraseDups _) (List.mem_eraseDups.2 hmem) hsome).symm
  · next hmem =>
    have hnew : name ∉ (members.map Prod.fst).eraseDups := fun h => hmem (List.mem_eraseDups.1 h)
    rw [put_entries_of_not_mem _ value hnew, entries, List.filterMap_append]
    refine congrArg₂ (· ++ ·) (List.filterMap_congr fun n hn => ?_) ?_
    · have hne : n ≠ name := fun h => hnew (h ▸ hn)
      simp only [if_neg hne]
    · simp

/-- Putting members in one after the other keeps the latest. -/
theorem ofMembers_eq_latest (members : List (String × Node)) :
    ofMembers members = .object (latest members) := by
  refine congrArg Node.object ?_
  induction members using List.reverseRecOn with
  | nil => rfl
  | append_singleton members m ih =>
    rw [List.foldl_append, ih, latest_concat]
    rfl

mutual

/-- The tree with every name of an object once. -/
def Node.tidied : Node → Node
  | .array items => .array (tidiedItems items)
  | .object members => .object (latest (tidiedMembers members))
  | .null => .null
  | .bool b => .bool b
  | .number x => .number x
  | .text s => .text s

/-- The values of an array, tidied. -/
def tidiedItems : List Node → List Node
  | [] => []
  | node :: nodes => node.tidied :: tidiedItems nodes

/-- The members of an object, tidied. -/
def tidiedMembers : List (String × Node) → List (String × Node)
  | [] => []
  | (name, node) :: members => (name, node.tidied) :: tidiedMembers members

end

theorem tidiedItems_eq_map (items : List Node) : tidiedItems items = items.map Node.tidied := by
  induction items with
  | nil => rfl
  | cons node nodes ih => rw [tidiedItems, ih, List.map_cons]

theorem tidiedMembers_eq_map (members : List (String × Node)) :
    tidiedMembers members = members.map fun m => (m.1, m.2.tidied) := by
  induction members with
  | nil => rfl
  | cons m members ih => rw [tidiedMembers, ih, List.map_cons]

end ParserKit.Json
