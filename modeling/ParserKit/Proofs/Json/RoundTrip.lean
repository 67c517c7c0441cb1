import ParserKit.Proofs.Grammar.Literal
import ParserKit.Proofs.Json.Rendering

/-!
# Reading renderings back

The JSON grammar reads every rendering of a tree without numbers and gives the tree, with every
name of an object once. Tokens are read with the blanks behind them, so a token is read as a whole
only if what follows does not begin with a blank; this is the one condition on what stands behind.
The alternatives of a value begin with different characters, and an alternative that is not meant
fails before it has consumed anything.

## Main results

* `Json.reads_character`: a character is read from each of its spellings
* `Json.reads_text`, `Json.reads_listed`: texts and lists of values
* `Json.reads_call`: a value is read from each of its renderings
* `Json.run_document`: so is a document, up to the end of the input
-/

namespace ParserKit.Json

open Grammar

variable {ρ : Type → Type} {α : Type} (env : {α : Type} → ρ α → Parser Char α)
  {t r : List Char}

/-! ## Blanks -/

/-- The text does not begin with a blank. -/
def Unblank (r : List Char) : Prop := ∀ x ∈ r.head?, Text.isBlank x = false

theorem unblank_nil : Unblank [] := fun _ h => absurd h (Option.not_mem_none _)

theorem unblank_cons {x : Char} (h : Text.isBlank x = false) (r : List Char) :
    Unblank (x :: r) := by
  intro y hy
  cases hy
  exact h

theorem Lexeme.unblank {x : Char} {w : List Char} (h : Lexeme (x :: w) t)
    (hx : Text.isBlank x = false) (r : List Char) : Unblank (t ++ r) := by
  obtain ⟨u, rfl⟩ := h.exists_cons
  exact unblank_cons hx _

theorem Renders.unblank {node : Node} (h : Renders node t) (r : List Char) : Unblank (t ++ r) := by
  obtain ⟨x, u, rfl, hx⟩ := h.exists_cons
  have hblank : ['n', 't', 'f', '"', '[', '\x7b'].all (fun y => !Text.isBlank y) = true := rfl
  exact unblank_cons (Bool.not_eq_true' _ ▸ List.all_eq_true.1 hblank x hx) _

theorem Blanks.sequence {bs : List Char} (h : Blanks bs) :
    Sequence (fun x u => Text.isBlank x = true ∧ u = [x]) bs bs :=
  sequence_singletons h

theorem reads_blanks {bs : List Char} (h : Blanks bs) (hr : Unblank r) :
    (blanks.toParser env).Reads bs r () := by
  have hmany : (((space.toParser env).map fun _ => ()).many).Reads bs r (bs.map fun _ => ()) := by
    refine Parser.reads_many h.sequence ?_ ?_ ?_
    · rintro x _ ⟨-, rfl⟩
      exact List.cons_ne_nil _ _
    · rintro x _ s ⟨hx, rfl⟩
      exact ((Parser.reads_satisfy Text.isBlank hx s).label _).map _
    · exact ((Parser.rejects_satisfy hr).label _).map _
  exact hmany.map _

/-- A token takes the blanks behind it with it. -/
theorem reads_lexeme {p : Grammar Char ρ α} {w : List Char} {a : α} (h : Lexeme w t)
    (hp : ∀ s, (p.toParser env).Reads w s a) (hr : Unblank r) :
    ((lexeme p).toParser env).Reads t r a := by
  obtain ⟨bs, hbs, rfl⟩ := h
  exact (hp (bs ++ r)).seqLeft (reads_blanks env hbs hr)

theorem begins_lexeme {p : Grammar Char ρ α} {starts : Char → Bool}
    (h : (p.toParser env).Begins starts) : ((lexeme p).toParser env).Begins starts :=
  h.seqLeft (blanks.toParser env)

/-! ## Texts -/

theorem hexValue?_of_mem : ∀ d ∈ hexDigits, Text.hexValue? d.1 = some d.2 ∧ d.2 < 16 := by
  decide

theorem reads_hexDigit {x : Char} {n : Nat} (h : (x, n) ∈ hexDigits) (r : List Char) :
    (hexDigit.toParser env).Reads [x] r (UInt32.ofNat n) := by
  have hx := (hexValue?_of_mem _ h).1
  have hread := Parser.reads_satisfy (fun c => (Text.hexValue? c).isSome)
    (Option.isSome_of_eq_some hx) r
  have hmap := hread.map fun c => UInt32.ofNat ((Text.hexValue? c).getD 0)
  rw [hx] at hmap
  exact hmap.label _

/-- Shifting a hexadecimal digit to one of the four places of a code loses nothing. -/
theorem toNat_shiftLeft_digit {n k : Nat} (hn : n < 16) (hk : k ≤ 12) :
    (UInt32.ofNat n <<< UInt32.ofNat k).toNat = n <<< k := by
  have hn' : (UInt32.ofNat n).toNat = n := UInt32.toNat_ofNat_of_lt' (Nat.lt_trans hn (by decide))
  have hk' : (UInt32.ofNat k).toNat = k :=
    UInt32.toNat_ofNat_of_lt' (Nat.lt_of_le_of_lt hk (by decide))
  have hlt : n <<< k < 2 ^ 32 := by
    rw [Nat.shiftLeft_eq]
    calc n * 2 ^ k ≤ 15 * 2 ^ 12 :=
          Nat.mul_le_mul (by omega) (Nat.pow_le_pow_right (by decide) hk)
      _ < 2 ^ 32 := by decide
  rw [UInt32.toNat_shiftLeft, hn', hk', Nat.mod_eq_of_lt (show k < 32 by omega),
    Nat.mod_eq_of_lt hlt]

/-- A digit takes up the four bits below a number. -/
theorem shiftLeft_or_digit {m n k : Nat} (hn : n < 16) :
    (m <<< (k + 4)) ||| (n <<< k) = (m * 16 + n) <<< k := by
  have hlt : n <<< k < 2 ^ (k + 4) := by
    rw [Nat.shiftLeft_eq, Nat.pow_add, Nat.mul_comm]
    exact Nat.mul_lt_mul_of_pos_left hn (Nat.two_pow_pos k)
  rw [← Nat.shiftLeft_add_eq_or_of_lt hlt]
  simp only [Nat.shiftLeft_eq, Nat.pow_add]
  grind

/-- The code of four digits is the number that they spell. -/
theorem toNat_codeOf {n₀ n₁ n₂ n₃ : Nat} (h₀ : n₀ < 16) (h₁ : n₁ < 16) (h₂ : n₂ < 16)
    (h₃ : n₃ < 16) :
    (codeOf (((.ofNat n₀, .ofNat n₁), .ofNat n₂), .ofNat n₃)).toNat =
      n₀ * 16 ^ 3 + n₁ * 16 ^ 2 + n₂ * 16 + n₃ := by
  have hlast : (UInt32.ofNat n₃).toNat = n₃ <<< 0 :=
    UInt32.toNat_ofNat_of_lt' (Nat.lt_trans h₃ (by decide))
  have hor : (codeOf (((.ofNat n₀, .ofNat n₁), .ofNat n₂), .ofNat n₃)).toNat =
      n₀ <<< (8 + 4) ||| n₁ <<< 8 ||| n₂ <<< 4 ||| n₃ <<< 0 := by
    rw [← toNat_shiftLeft_digit h₀ (by decide), ← toNat_shiftLeft_digit h₁ (by decide),
      ← toNat_shiftLeft_digit h₂ (by decide), ← hlast]
    simp only [codeOf, UInt32.toNat_or]
    rfl
  calc _ = n₀ <<< (8 + 4) ||| n₁ <<< 8 ||| n₂ <<< 4 ||| n₃ <<< 0 := hor
    _ = (n₀ * 16 + n₁) <<< (4 + 4) ||| n₂ <<< 4 ||| n₃ <<< 0 := by rw [shiftLeft_or_digit h₁]
    _ = ((n₀ * 16 + n₁) * 16 + n₂) <<< (0 + 4) ||| n₃ <<< 0 := by rw [shiftLeft_or_digit h₂]
    _ = n₀ * 16 ^ 3 + n₁ * 16 ^ 2 + n₂ * 16 + n₃ := by
      rw [shiftLeft_or_digit h₃, Nat.shiftLeft_zero]
      omega

/-- Four digits that are the code of a character are read as that character. -/
theorem reads_unicodeEscape {c x₀ x₁ x₂ x₃ : Char} {n₀ n₁ n₂ n₃ : Nat}
    (h₀ : (x₀, n₀) ∈ hexDigits) (h₁ : (x₁, n₁) ∈ hexDigits) (h₂ : (x₂, n₂) ∈ hexDigits)
    (h₃ : (x₃, n₃) ∈ hexDigits) (hc : c.toNat = n₀ * 16 ^ 3 + n₁ * 16 ^ 2 + n₂ * 16 + n₃)
    (r : List Char) : (unicodeEscape.toParser env).Reads [x₀, x₁, x₂, x₃] r c := by
  have hcode : codeOf (((.ofNat n₀, .ofNat n₁), .ofNat n₂), .ofNat n₃) = c.val := by
    have hnat := toNat_codeOf (hexValue?_of_mem _ h₀).2 (hexValue?_of_mem _ h₁).2
      (hexValue?_of_mem _ h₂).2 (hexValue?_of_mem _ h₃).2
    exact UInt32.toNat_inj.1 (hnat.trans hc.symm)
  have hdigits := ((((reads_hexDigit env h₀ ([x₁] ++ ([x₂] ++ ([x₃] ++ r)))).both
    (reads_hexDigit env h₁ ([x₂] ++ ([x₃] ++ r)))).both (reads_hexDigit env h₂ ([x₃] ++ r))).both
    (reads_hexDigit env h₃ r)).map codeOf
  rw [hcode] at hdigits
  have hscalar : ((scalar c.val).toParser env).Reads [] r c := by
    rw [scalar, dif_pos c.valid]
    exact Parser.reads_retn c r
  exact Parser.Reads.bind (u := []) hdigits hscalar

theorem escapes_begin : List.Forall₂ (fun f p => Parser.Begins p f)
    [(· == '"'), (· == '\\'), (· == '/'), (· == 'b'), (· == 'f'), (· == 'n'), (· == 'r'),
      (· == 't'), (· == 'u')]
    (escapes.map (toParser env)) := by
  have hletter (x : Char) (p : Grammar Char ρ Char) :
      (((chr x).seqRight p).toParser env).Begins (· == x) :=
    (begins_chr env x).seqRight _
  exact .cons (begins_chr env _) <| .cons (begins_chr env _) <| .cons (begins_chr env _) <|
    .cons (hletter _ _) <| .cons (hletter _ _) <| .cons (hletter _ _) <| .cons (hletter _ _) <|
    .cons (hletter _ _) <| .cons (hletter _ _) .nil

/-- The letters of the escapes are different, so each finds its own alternative. -/
theorem reads_escape {p : Parser Char Char} {e c : Char} (i : Nat)
    (hp : (escapes.map (toParser env))[i]? = some p)
    (he : ∀ f ∈ [(· == '"'), (· == '\\'), (· == '/'), (· == 'b'), (· == 'f'), (· == 'n'),
      (· == 'r'), (· == 't'), (· == 'u')].take i, f e = false)
    (h : p.Reads (e :: t) r c) : (escape.toParser env).Reads (e :: t) r c := by
  have hchoice := Parser.reads_choice (escapes_begin env) i hp he h
  rw [← toParser_choice] at hchoice
  exact hchoice.label _

theorem reads_escape_short {e c : Char} (h : (e, c) ∈ shortEscapes) (r : List Char) :
    (escape.toParser env).Reads [e] r c := by
  have hletter (x c : Char) : (((chr x).seqRight (retn c)).toParser env).Reads [x] r c :=
    Parser.Reads.seqRight (u := []) (reads_chr env x r) (Parser.reads_retn c r)
  simp only [shortEscapes, List.mem_cons, Prod.mk.injEq, List.not_mem_nil, or_false] at h
  rcases h with ⟨rfl, rfl⟩ | ⟨rfl, rfl⟩ | ⟨rfl, rfl⟩ | ⟨rfl, rfl⟩ | ⟨rfl, rfl⟩ | ⟨rfl, rfl⟩ |
    ⟨rfl, rfl⟩ | ⟨rfl, rfl⟩
  · exact reads_escape env 0 rfl (by decide) (reads_chr env _ r)
  · exact reads_escape env 1 rfl (by decide) (reads_chr env _ r)
  · exact reads_escape env 2 rfl (by decide) (reads_chr env _ r)
  · exact reads_escape env 3 rfl (by decide) (hletter _ _)
  · exact reads_escape env 4 rfl (by decide) (hletter _ _)
  · exact reads_escape env 5 rfl (by decide) (hletter _ _)
  · exact reads_escape env 6 rfl (by decide) (hletter _ _)
  · exact reads_escape env 7 rfl (by decide) (hletter _ _)

/-- A character is read from each of its spellings. -/
theorem reads_character {c : Char} (h : Spelled c t) (r : List Char) :
    (character.toParser env).Reads t r c := by
  cases h with
  | literal hquote hslash =>
    have hslash' : (c == '\\') = false := beq_eq_false_iff_ne.2 hslash
    have hnone : (!"\"\\".toList.contains c) = true := by simp [hquote, hslash]
    refine Parser.Rejects.orElse_reads ?_
      ((Parser.reads_satisfy (fun x => !"\"\\".toList.contains x) hnone r).label _)
    exact (begins_chr env '\\').seqRight (escape.toParser env) c r hslash'
  | @short e h =>
    have hread := (reads_chr env '\\' ([e] ++ r)).seqRight (reads_escape_short env h r)
    exact hread.orElse _
  | code h₀ h₁ h₂ h₃ hc =>
    have hcode := reads_unicodeEscape env h₀ h₁ h₂ h₃ hc r
    have hescape := reads_escape env 8 rfl (by decide)
      (Parser.Reads.seqRight (reads_chr env 'u' _) hcode)
    exact ((reads_chr env '\\' _).seqRight hescape).orElse _

theorem rejects_character (r : List Char) : (character.toParser env).Rejects ('"' :: r) := by
  refine Parser.Rejects.orElse ?_ ?_
  · exact (begins_chr env '\\').seqRight (escape.toParser env) '"' r (by decide)
  · exact (Parser.begins_satisfy _).label _ '"' r (by decide)

theorem reads_text {s : String} (h : Quoted s t) (hr : Unblank r) :
    (text.toParser env).Reads t r s := by
  obtain ⟨body, hbody, hlexeme⟩ := h
  refine reads_lexeme env hlexeme (fun v => ?_) hr
  have hchars : (character.many.toParser env).Reads body (['"'] ++ v) (s.toList.map id) :=
    Parser.reads_many hbody (fun _ _ hc => hc.ne_nil)
      (fun _ _ w hc => reads_character env hc w) (rejects_character env v)
  have hstring := hchars.map String.ofList
  rw [List.map_id, String.ofList_toList] at hstring
  exact ((reads_chr env '"' _).seqRight hstring).seqLeft (reads_chr env '"' v)

theorem begins_text : ((text : Grammar Char ρ String).toParser env).Begins (· == '"') :=
  begins_lexeme env (((begins_chr env '"').seqRight _).seqLeft _)

/-! ## Values -/

/-- A list is read if its items are. An item may stand behind blanks, and none begins with the
closing mark. -/
theorem reads_listed {γ : Type} {item : Grammar Char ρ α} {P : γ → List Char → Prop} {f : γ → α}
    {opening closing : Char} {xs : List γ} {o s : List Char} (hopen : Lexeme [opening] o)
    (h : Separated (Lexeme [',']) P xs t) (hclose : Lexeme [closing] s)
    (hcomma : (closing == ',') = false) (hblank : Text.isBlank closing = false)
    (hP : ∀ x u v, P x u → Unblank (u ++ v))
    (hitem : ∀ x u v, P x u → Unblank v → (item.toParser env).Reads u v (f x))
    (hstop : ∀ v, (item.toParser env).Rejects (closing :: v)) (hr : Unblank r) :
    ((listed opening closing item).toParser env).Reads (o ++ t ++ s) r (xs.map f) := by
  have hend : Unblank (s ++ r) := hclose.unblank hblank r
  have hopened : ((lexeme (chr opening)).toParser env).Reads o (t ++ (s ++ r)) opening :=
    reads_lexeme env hopen (reads_chr env opening) (h.follow hP hend)
  have hclosed : ((lexeme (chr closing)).toParser env).Reads s r closing :=
    reads_lexeme env hclose (reads_chr env closing) hr
  have halt : Parser.Alternates (item.toParser env) ((lexeme (chr ',')).toParser env) P
      (Lexeme [',']) Unblank f ',' :=
    { ne_nil := fun _ hs => hs.ne_nil
      follow := fun _ u hs => hs.unblank (by decide) u
      reads_item := hitem
      reads_sep := fun _ x u v hs hx => reads_lexeme env hs (reads_chr env ',') (hP x u v hx) }
  have hitems : ((item.sepBy (lexeme (chr ','))).toParser env).Reads t (s ++ r) (xs.map f) := by
    obtain ⟨v, rfl⟩ := hclose.exists_cons
    have hsep := begins_lexeme env (begins_chr env ',') closing (v ++ r) hcomma
    exact halt.reads_sepBy h hend hsep (hstop _)
  exact (hopened.seqRight hitems).seqLeft hclosed

/-- A number begins with a sign or a digit. -/
theorem begins_decimal :
    ((decimal : Grammar Char ρ Float).toParser env).Begins fun x =>
      "+-".toList.contains x || isDecimal x := by
  have hstart : ((sign.both digits : Grammar Char ρ _).toParser env).Begins fun x =>
      "+-".toList.contains x || isDecimal x := by
    intro x r hx
    obtain ⟨hmark, hdigit⟩ := Bool.or_eq_false_iff.1 hx
    have hsign : (sign.toParser env).Reads [] (x :: r) false :=
      Parser.Rejects.orElse_reads (t := []) ((((Parser.begins_satisfy _).label _).map _) x r hmark)
        (Parser.reads_retn false _)
    have hdigits : (digits.toParser env).Rejects (x :: r) :=
      ((((Parser.begins_satisfy _).label _).map _) x r hdigit).many1
    exact hsign.both_rejects hdigits
  exact (((hstart.both (fraction.toParser env)).both (exponent.toParser env)).map _).label _

section Value

variable (env : {α : Type} → Ref α → Parser Char α)

theorem kinds_begin : List.Forall₂ (fun f p => Parser.Begins p f)
    [(· == 'n'), (fun x => x == 't' || x == 'f'), (fun x => "+-".toList.contains x || isDecimal x),
      (· == '"'), (· == '['), (· == '\x7b')]
    (kinds.map (toParser env)) := by
  have hnull : (null.toParser env).Begins (· == 'n') :=
    ((begins_lexeme env (begins_literal env rfl)).map _).label _
  have hboolean : (boolean.toParser env).Begins fun x => x == 't' || x == 'f' := by
    have htrue : ((literal "true").toParser env).Begins (· == 't') := begins_literal env rfl
    have hfalse : ((literal "false").toParser env).Begins (· == 'f') := begins_literal env rfl
    exact ((((htrue.map _).orElse (hfalse.map _)).seqLeft _).map _).label _
  have hnumber : (number.toParser env).Begins fun x => "+-".toList.contains x || isDecimal x :=
    ((begins_lexeme env (begins_decimal env)).map _).label _
  have hlisted {α : Type} (o s : Char) (item : Grammar Char Ref α) :
      ((listed o s item).toParser env).Begins (· == o) :=
    ((begins_lexeme env (begins_chr env o)).seqRight _).seqLeft _
  exact .cons hnull <| .cons hboolean <| .cons hnumber <|
    .cons (((begins_text env).map _).label _) <| .cons (((hlisted _ _ _).map _).label _) <|
    .cons (((hlisted _ _ _).map _).label _) .nil

/-- The kinds of values begin with different characters, so each value finds its own kind. -/
theorem reads_value {p : Parser Char Node} {x : Char} {node : Node} (i : Nat)
    (hp : (kinds.map (toParser env))[i]? = some p) (ht : ∃ u, t = x :: u)
    (hx : ∀ f ∈ [(· == 'n'), (fun x => x == 't' || x == 'f'),
      (fun x => "+-".toList.contains x || isDecimal x), (· == '"'), (· == '['),
      (· == '\x7b')].take i, f x = false)
    (h : p.Reads t r node) : (value.toParser env).Reads t r node := by
  obtain ⟨u, rfl⟩ := ht
  have hchoice := Parser.reads_choice (kinds_begin env) i hp hx h
  rw [← toParser_choice] at hchoice
  exact hchoice.label _

theorem rejects_value (r : List Char) : (value.toParser env).Rejects (']' :: r) := by
  have hchoice := Parser.rejects_choice (r := ']' :: r)
    (Parser.rejects_of_begins (kinds_begin env) (by decide))
  rw [← toParser_choice] at hchoice
  exact hchoice.label _

theorem reads_boolean {b : Bool} (h : Lexeme (if b then "true" else "false").toList t)
    (hr : Unblank r) : (boolean.toParser env).Reads t r (.bool b) := by
  have hread : ((lexeme (((literal "true").map fun _ => true).orElse
      ((literal "false").map fun _ => false))).toParser env).Reads t r b := by
    refine reads_lexeme env h (fun s => ?_) hr
    cases b with
    | true => exact ((reads_literal env "true" s).map fun _ => true).orElse _
    | false =>
      have htrue : ((literal "true").toParser env).Begins (· == 't') := begins_literal env rfl
      exact ((htrue 'f' _ (by decide)).map _).orElse_reads
        ((reads_literal env "false" s).map fun _ => false)
  exact (hread.map _).label _

/-- An array is read if its items are. -/
theorem reads_array {items : List Node} {P : Node → List Char → Prop} {o s : List Char}
    (hopen : Lexeme ['['] o) (h : Separated (Lexeme [',']) P items t) (hclose : Lexeme [']'] s)
    (hP : ∀ node u v, P node u → Unblank (u ++ v))
    (hvalue : ∀ node u v, P node u → Unblank v → (env .value).Reads u v node.tidied)
    (hstop : ∀ v, (env .value).Rejects (']' :: v)) (hr : Unblank r) :
    (array.toParser env).Reads (o ++ t ++ s) r (Node.array items).tidied := by
  rw [Node.tidied, tidiedItems_eq_map]
  have hitems : ((listed '[' ']' (ref .value)).toParser env).Reads (o ++ t ++ s) r
      (items.map Node.tidied) :=
    reads_listed env hopen h hclose (by decide) (by decide) hP hvalue hstop hr
  exact (hitems.map _).label _

theorem Member.unblank {P : Node → List Char → Prop} {m : String × Node} (h : Member P m t)
    (r : List Char) : Unblank (t ++ r) := by
  obtain ⟨hname, -, -⟩ := h
  obtain ⟨u, rfl⟩ := hname.exists_cons
  exact unblank_cons (by decide) _

/-- A member is read if its value is. -/
theorem reads_member {P : Node → List Char → Prop} {m : String × Node} (h : Member P m t)
    (hP : ∀ node u v, P node u → Unblank (u ++ v))
    (hvalue : ∀ node u v, P node u → Unblank v → (env .value).Reads u v node.tidied)
    (hr : Unblank r) : (member.toParser env).Reads t r (m.1, m.2.tidied) := by
  obtain @⟨name, node, t, s, u, hname, hcolon, hnode⟩ := h
  have hmark : ((lexeme (chr ':')).toParser env).Reads s (u ++ r) ':' :=
    reads_lexeme env hcolon (reads_chr env ':') (hP node u r hnode)
  have htext : (text.toParser env).Reads t ((s ++ u) ++ r) name := by
    refine reads_text env hname ?_
    rw [List.append_assoc]
    exact hcolon.unblank (by decide) _
  exact htext.bind ((hmark.seqRight (hvalue node u r hnode hr)).map fun node => (name, node))

/-- An object is read if the values of its members are. -/
theorem reads_object {members : List (String × Node)} {P : Node → List Char → Prop}
    {o s : List Char} (hopen : Lexeme ['\x7b'] o)
    (h : Separated (Lexeme [',']) (Member P) members t) (hclose : Lexeme ['\x7d'] s)
    (hP : ∀ node u v, P node u → Unblank (u ++ v))
    (hvalue : ∀ node u v, P node u → Unblank v → (env .value).Reads u v node.tidied)
    (hr : Unblank r) :
    (object.toParser env).Reads (o ++ t ++ s) r (Node.object members).tidied := by
  have hstop (v : List Char) : (member.toParser env).Rejects ('\x7d' :: v) :=
    (begins_text env '\x7d' v (by decide)).bind
  have hmembers : ((listed '\x7b' '\x7d' member).toParser env).Reads (o ++ t ++ s) r
      (members.map fun m => (m.1, m.2.tidied)) :=
    reads_listed env hopen h hclose (by decide) (by decide) (fun _ _ v hm => hm.unblank v)
      (fun _ _ _ hm hv => reads_member env hm hP hvalue hv) hstop hr
  rw [Node.tidied, ← ofMembers_eq_latest, tidiedMembers_eq_map]
  exact (hmembers.map _).label _

end Value

/-- A value is read from each of its renderings. Each nested call is behind an opening mark, so
calls nest no deeper than the rendering is long. -/
theorem reads_call {n : Nat} {node : Node} (h : Renders node t) (hn : t.length ≤ n)
    (hr : Unblank r) : (rules.call n Ref.value).Reads t r node.tidied := by
  induction n generalizing node t r with
  | zero =>
    obtain ⟨x, u, rfl, -⟩ := h.exists_cons
    cases hn
  | succ n ih =>
    -- one call runs the definition, and the calls inside it have a depth of `n`
    show (value.toParser fun r => rules.call n r).Reads t r node.tidied
    have hvalue : ∀ node u v, Renders node u ∧ u.length ≤ n → Unblank v →
        (rules.call n Ref.value).Reads u v node.tidied :=
      fun node u v hu hv => ih hu.1 hu.2 hv
    have hunblank : ∀ node u v, Renders node u ∧ u.length ≤ n → Unblank (u ++ v) :=
      fun node u v hu => hu.1.unblank v
    cases h with
    | null h =>
      have hread := reads_lexeme (fun r => rules.call n r) h (reads_literal _ "null") hr
      exact reads_value _ 0 rfl h.exists_cons (by decide) ((hread.map _).label _)
    | @bool b _ h =>
      have hread := reads_boolean (fun r => rules.call n r) h hr
      cases b with
      | true => exact reads_value _ 1 rfl h.exists_cons (by decide) hread
      | false => exact reads_value _ 1 rfl h.exists_cons (by decide) hread
    | text h =>
      have hread := reads_text (fun r => rules.call n r) h hr
      exact reads_value _ 3 rfl h.exists_cons (by decide) ((hread.map _).label _)
    | @array items o u s hopen h hclose =>
      have hopened := hopen.length_pos
      have hclosed := hclose.length_pos
      simp only [List.length_append] at hn
      -- the list may be empty, and then the definition is run once more to see that
      obtain ⟨k, rfl⟩ : ∃ k, n = k + 1 := ⟨n - 1, by omega⟩
      have hread := reads_array (fun r => rules.call (k + 1) r) hopen (h.bounded (by omega)) hclose
        hunblank hvalue (rejects_value fun r => rules.call k r) hr
      obtain ⟨o', rfl⟩ := hopen.exists_cons
      exact reads_value _ 4 rfl ⟨_, rfl⟩ (by decide) hread
    | @object members o u s hopen h hclose =>
      have hopened := hopen.length_pos
      simp only [List.length_append] at hn
      have hmembers : Separated (Lexeme [',']) (Member fun v w => Renders v w ∧ w.length ≤ n)
          members u :=
        (h.bounded (n := n) (by omega)).mono fun m w hm => hm.1.bounded hm.2
      have hread := reads_object (fun r => rules.call n r) hopen hmembers hclose hunblank hvalue hr
      obtain ⟨o', rfl⟩ := hopen.exists_cons
      exact reads_value _ 5 rfl ⟨_, rfl⟩ (by decide) hread

/-- A document is read from each of its renderings, up to the end of the input. The value is the
tree, with each name of an object once. -/
theorem run_document {node : Node} (h : IsDocument node t) (id : Nat) :
    ∃ o rest, (rules.parser document).run (.start id t.toArray) = pure o ∧
      o.isConsumed = true ∧ o.takeReply = pure (.ok node.tidied rest) ∧
      rest.source = ⟨id, t.toArray⟩ ∧ rest.isAtEnd = true := by
  obtain ⟨bs, u, hbs, hu, rfl⟩ := h
  let c : Cursor Char := .start id (bs ++ u).toArray
  -- calls may nest as deep as there are symbols, which is deep enough
  have hdepth : u.length ≤ rules.depthFrom c := by
    simp only [c, Rules.depthFrom, rules, Cursor.left, Cursor.length, Cursor.start,
      List.size_toArray, List.length_append]
    omega
  have hvalue : (rules.call (rules.depthFrom c) Ref.value).Reads u [] node.tidied :=
    reads_call hu hdepth unblank_nil
  have hblanks := reads_blanks (fun r => rules.call (rules.depthFrom c) r) hbs (hu.unblank [])
  obtain ⟨rest, hsource, hrest, o, hrun, htag, hreply⟩ :=
    (hblanks.seqRight hvalue) c (List.append_nil _).symm
  refine ⟨o, rest, hrun, ?_, hreply, hsource, ?_⟩
  · obtain ⟨x, v, rfl, -⟩ := hu.exists_cons
    rw [htag]
    simp
  · rw [Cursor.isAtEnd, hrest]
    rfl

/-- An object that names a member twice. -/
def twice : Node :=
  .object [("a", .array [.bool true, .array []]), ("b", .text "é\n"), ("a", .null)]

/-- A rendering of the object, with blanks and escapes. -/
def twiceText : List Char :=
  " \x7b\"a\":[true ,[]],\"b\": \"\\u00E9\\n\",\"\\u0061\":null\x7d\n".toList

/-- The object is written with its names as they are and read back with one member of each name. -/
theorem run_document_of_twice :
    IsDocument twice twiceText ∧
    ∃ o rest, (rules.parser document).run (.start 0 twiceText.toArray) = pure o ∧
      o.takeReply = pure (.ok (.object [("a", .null), ("b", .text "é\n")]) rest) ∧
      rest.isAtEnd = true := by
  have hbare (w : List Char) : Lexeme w w := ⟨[], nofun, (List.append_nil w).symm⟩
  have hspaced (w : List Char) {x : Char} (hx : Text.isBlank x = true) : Lexeme w (w ++ [x]) :=
    ⟨[x], List.forall_mem_singleton.2 hx, rfl⟩
  have hquoted (s : String) {body : List Char} (h : Sequence Spelled s.toList body) :
      Quoted s ('"' :: body ++ ['"']) := ⟨body, h, hbare _⟩
  have hplain : Spelled 'a' ['a'] := .literal (by decide) (by decide)
  have hcode : Spelled 'a' ['\\', 'u', '0', '0', '6', '1'] :=
    .code (show ('0', 0) ∈ hexDigits by decide) (show ('0', 0) ∈ hexDigits by decide)
      (show ('6', 6) ∈ hexDigits by decide) (show ('1', 1) ∈ hexDigits by decide) rfl
  have hupper : Spelled 'é' ['\\', 'u', '0', '0', 'E', '9'] :=
    .code (show ('0', 0) ∈ hexDigits by decide) (show ('0', 0) ∈ hexDigits by decide)
      (show ('E', 14) ∈ hexDigits by decide) (show ('9', 9) ∈ hexDigits by decide) rfl
  have hshort : Spelled '\n' ['\\', 'n'] := .short (by decide)
  have hmarks : Renders (.array [.bool true, .array []]) "[true ,[]]".toList :=
    .array (hbare ['[']) (.cons (.bool (hspaced _ rfl)) (hbare [',']) (.single
      (.array (hbare ['[']) .nil (hbare [']'])))) (hbare [']'])
  have hfirst : Member Renders ("a", .array [.bool true, .array []]) "\"a\":[true ,[]]".toList :=
    .mk (hquoted "a" (.cons hplain .nil)) (hbare [':']) hmarks
  have hsecond : Member Renders ("b", .text "é\n") "\"b\": \"\\u00E9\\n\"".toList :=
    .mk (hquoted "b" (.cons (.literal (by decide) (by decide)) .nil)) (hspaced [':'] rfl)
      (.text (hquoted "é\n" (.cons hupper (.cons hshort .nil))))
  have hthird : Member Renders ("a", .null) "\"\\u0061\":null".toList :=
    .mk (hquoted "a" (.cons hcode .nil)) (hbare [':']) (.null (hbare _))
  have hdocument : IsDocument twice twiceText :=
    ⟨[' '], _, List.forall_mem_singleton.2 rfl, .object (hbare ['\x7b'])
      (.cons hfirst (hbare [',']) (.cons hsecond (hbare [',']) (.single hthird)))
      (hspaced ['\x7d'] (x := '\n') rfl), rfl⟩
  obtain ⟨o, rest, hrun, -, hreply, -, hend⟩ := run_document hdocument 0
  exact ⟨hdocument, o, rest, hrun, hreply, hend⟩

end ParserKit.Json
