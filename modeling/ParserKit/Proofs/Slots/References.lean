import ParserKit.Blueprint.Basic

/-!
# The references in a blueprint

The references of a blueprint are noted while it is gone through from left to right. A blueprint
that is put together from others, by putting them in the place of references, has their references
and no others. It can be put together if there is a blueprint for each reference.

## Main definitions

* `Notes refs x a`: the computation `x` notes these references, and ends with `a`
* `Blueprint.RefersTo P`: all references of the blueprint are in `P`

## Main results

* `Blueprint.resolve_eq_none_iff`: what cannot be put together
* `Blueprint.mem_refs_of_resolve`: what is put together refers to what its parts refer to
-/

namespace ParserKit

variable {ν μ : Type} {α β γ : Type}

/-! ## Notes -/

/-- The computation ends with `a`, and puts these references before those that were noted. -/
def Notes (refs : List ν) (x : StateM (List ν) α) (a : α) : Prop :=
  ∀ before, x.run before = (a, refs ++ before)

namespace Notes

variable {refs refs' : List ν} {x : StateM (List ν) α} {a : α}

theorem pure (a : α) : Notes [] (Pure.pure a : StateM (List ν) α) a := fun _ => rfl

theorem map (f : α → β) (h : Notes refs x a) : Notes refs (do return f (← x)) (f a) := by
  intro before
  rw [StateT.run_bind, h]
  rfl

theorem bind {f : α → StateM (List ν) β} {b : β} (hx : Notes refs x a)
    (hf : Notes refs' (f a) b) : Notes (refs' ++ refs) (x >>= f) b := by
  intro before
  rw [StateT.run_bind, hx, List.append_assoc]
  exact hf _

end Notes

/-- The references of a blueprint, if there is one. -/
def refsFound {k : Kind} (found : Option (Blueprint ν k)) : List ν :=
  (found.map Blueprint.refs).getD []

/-- Going through `a` notes names. The computation `x` comes to something if there is a blueprint
for each of them, and going through that notes the references of these blueprints. -/
def Traced {k : Kind} (find : μ → Option (Blueprint ν k)) (visit : α → StateM (List μ) α)
    (visit' : β → StateM (List ν) β) (a : α) (x : Option β) : Prop :=
  ∃ names, Notes names (visit a) a ∧ (x = none ↔ ∃ name ∈ names, find name = none) ∧
    ∀ b, x = some b → Notes (names.flatMap fun name => refsFound (find name)) (visit' b) b

namespace Traced

variable {k : Kind} {find : μ → Option (Blueprint ν k)} {α' β' γ' δ δ' : Type} {a : α} {b : β}
  {c : γ} {x : Option α'} {y : Option β'} {z : Option γ'} {visitA : α → StateM (List μ) α}
  {visitA' : α' → StateM (List ν) α'} {visitB : β → StateM (List μ) β}
  {visitB' : β' → StateM (List ν) β'} {visitC : γ → StateM (List μ) γ}
  {visitC' : γ' → StateM (List ν) γ'} {visitAll : δ → StateM (List μ) δ}
  {visitAll' : δ' → StateM (List ν) δ'}

theorem leaf {a' : α'} (h : visitA a = pure a) (h' : visitA' a' = pure a') :
    Traced find visitA visitA' a (pure a') := by
  refine ⟨[], h ▸ .pure a, iff_of_false nofun nofun, ?_⟩
  rintro _ ⟨⟩
  exact h' ▸ .pure a'

/-- Something with one part is gone through by going through the part. -/
theorem one {build : α → δ} {build' : α' → δ'} (hx : Traced find visitA visitA' a x)
    (h : visitAll (build a) = do return build (← visitA a))
    (h' : ∀ a, visitAll' (build' a) = do return build' (← visitA' a)) :
    Traced find visitAll visitAll' (build a) (do return build' (← x)) := by
  obtain ⟨names, hnames, hnone, hrefs⟩ := hx
  refine ⟨names, ?_, ?_, fun d hd => ?_⟩
  · rw [h]
    exact hnames.map build
  · rw [← hnone]
    cases x <;> simp
  · obtain ⟨a, ha, ⟨⟩⟩ := Option.bind_eq_some_iff.1 hd
    rw [h']
    exact (hrefs a ha).map build'

/-- Of two parts the first one is gone through first. -/
theorem two {build : α → β → δ} {build' : α' → β' → δ'} (hx : Traced find visitA visitA' a x)
    (hy : Traced find visitB visitB' b y)
    (h : visitAll (build a b) = do return build (← visitA a) (← visitB b))
    (h' : ∀ a b, visitAll' (build' a b) = do return build' (← visitA' a) (← visitB' b)) :
    Traced find visitAll visitAll' (build a b) (do return build' (← x) (← y)) := by
  obtain ⟨names, hnames, hnone, hrefs⟩ := hx
  obtain ⟨names', hnames', hnone', hrefs'⟩ := hy
  refine ⟨names' ++ names, ?_, ?_, fun d hd => ?_⟩
  · rw [h]
    exact hnames.bind (hnames'.map (build a))
  · simp only [List.mem_append, or_and_right, exists_or, ← hnone, ← hnone']
    cases x <;> cases y <;> simp
  · obtain ⟨a, ha, hd⟩ := Option.bind_eq_some_iff.1 hd
    obtain ⟨b, hb, ⟨⟩⟩ := Option.bind_eq_some_iff.1 hd
    rw [h', List.flatMap_append]
    exact (hrefs a ha).bind ((hrefs' b hb).map (build' a))

theorem three {build : α → β → γ → δ} {build' : α' → β' → γ' → δ'}
    (hx : Traced find visitA visitA' a x) (hy : Traced find visitB visitB' b y)
    (hz : Traced find visitC visitC' c z)
    (h : visitAll (build a b c) = do return build (← visitA a) (← visitB b) (← visitC c))
    (h' : ∀ a b c,
      visitAll' (build' a b c) = do return build' (← visitA' a) (← visitB' b) (← visitC' c)) :
    Traced find visitAll visitAll' (build a b c) (do return build' (← x) (← y) (← z)) := by
  obtain ⟨names, hnames, hnone, hrefs⟩ := hx
  obtain ⟨names', hnames', hnone', hrefs'⟩ := hy
  obtain ⟨names'', hnames'', hnone'', hrefs''⟩ := hz
  refine ⟨names'' ++ names' ++ names, ?_, ?_, fun d hd => ?_⟩
  · rw [h]
    exact hnames.bind (hnames'.bind (hnames''.map (build a b)))
  · simp only [List.mem_append, or_and_right, exists_or, ← hnone, ← hnone', ← hnone'']
    cases x <;> cases y <;> cases z <;> simp
  · obtain ⟨a, ha, hd⟩ := Option.bind_eq_some_iff.1 hd
    obtain ⟨b, hb, hd⟩ := Option.bind_eq_some_iff.1 hd
    obtain ⟨c, hc, ⟨⟩⟩ := Option.bind_eq_some_iff.1 hd
    rw [h', List.flatMap_append, List.flatMap_append]
    exact (hrefs a ha).bind ((hrefs' b hb).bind ((hrefs'' c hc).map (build' a b)))

end Traced

/-! ## Blueprints -/

/-- Note a reference, and leave it where it is. -/
def Blueprint.note {k : Kind} (r : ν) : StateM (List ν) (Blueprint ν k) := do
  modify (r :: ·)
  return .ref r

/-- The references of a blueprint are those that going through it notes. -/
theorem Blueprint.refs_eq {k : Kind} (p : Blueprint ν k) :
    p.refs = ((p.resolve note).run []).2 :=
  rfl

/-- If going through blueprints notes their references, a reference is traced to its blueprint. -/
theorem Traced.ref {k : Kind} {find : μ → Option (Blueprint ν k)}
    (hfind : ∀ r q, find r = some q → Notes q.refs (q.resolve Blueprint.note) q) (r : μ) :
    Traced find (Blueprint.resolve Blueprint.note) (Blueprint.resolve Blueprint.note)
      (.ref r : Blueprint μ k) (find r) := by
  refine ⟨[r], fun _ => rfl, by simp, fun q hq => ?_⟩
  rw [List.flatMap_singleton, hq]
  exact hfind r q hq

mutual

/-- A blueprint whose names are resolved has the references of what the names are resolved to. -/
theorem Blueprint.traced {k : Kind} {find : μ → Option (Blueprint ν k)}
    (hfind : ∀ r q, find r = some q → Notes q.refs (q.resolve Blueprint.note) q)
    (p : Blueprint μ k) :
    Traced find (Blueprint.resolve Blueprint.note) (Blueprint.resolve Blueprint.note) p
      (Blueprint.resolve find p) :=
  match k, p with
  | _, .retn _ | _, .retnWith _ | _, .fail | _, .eof | _, .satisfy _ | _, .take _
  | _, .takeLater _ | _, .next | _, .nextBlind | _, .chr _ | _, .letter | _, .digit
  | _, .alphaNum | _, .space | _, .oneOf _ | _, .noneOf _ | _, .literal _ | _, .integer
  | _, .decimal | _, .blanks | _, .regex _ => .leaf rfl rfl
  | _, .map _ p | _, .label _ p | _, .option _ p | _, .mapTimes _ _ p | _, .thenLeft _ p
  | _, .thenRight _ p | _, .attempt p | _, .optional p | _, .many p | _, .many1 p
  | _, .skipMany p | _, .delay p | _, .lexeme p => .one (p.traced hfind) rfl fun _ => rfl
  | _, .seqRight p q | _, .seqLeft p q | _, .both p q | _, .orElse p q | _, .sepBy p q
  | _, .sepBy1 p q => .two (p.traced hfind) (q.traced hfind) rfl fun _ _ => rfl
  | _, .bind p next => .two (p.traced hfind) (next.traced hfind) rfl fun _ _ => rfl
  | _, .between o c p =>
    .three (o.traced hfind) (c.traced hfind) (p.traced hfind) rfl fun _ _ _ => rfl
  | _, .choice ps => .one (ps.traced hfind) rfl fun _ => rfl
  | _, .ref r => .ref hfind r

theorem Blueprints.traced {k : Kind} {find : μ → Option (Blueprint ν k)}
    (hfind : ∀ r q, find r = some q → Notes q.refs (q.resolve Blueprint.note) q)
    (ps : Blueprints μ k) :
    Traced find (Blueprints.resolve Blueprint.note) (Blueprints.resolve Blueprint.note) ps
      (ps.resolve find) :=
  match k, ps with
  | _, .nil => .leaf rfl rfl
  | _, .cons p ps => .two (p.traced hfind) (ps.traced hfind) rfl fun _ _ => rfl

theorem Next.traced {k : Kind} {find : μ → Option (Blueprint ν k)}
    (hfind : ∀ r q, find r = some q → Notes q.refs (q.resolve Blueprint.note) q)
    (next : Next μ k) :
    Traced find (Next.resolve Blueprint.note) (Next.resolve Blueprint.note) next
      (next.resolve find) :=
  match k, next with
  | _, .pure | _, .again | _, .rejectDigit | _, .map _ | _, .literal | _, .hexChar =>
    .leaf rfl rfl
  | _, .run p | _, .pair p | _, .count p => .one (p.traced hfind) rfl fun _ => rfl
  | _, .case branches default =>
    .two (branches.traced hfind) (default.traced hfind) rfl fun _ _ => rfl

theorem Branches.traced {k : Kind} {find : μ → Option (Blueprint ν k)}
    (hfind : ∀ r q, find r = some q → Notes q.refs (q.resolve Blueprint.note) q)
    (branches : Branches μ k) :
    Traced find (Branches.resolve Blueprint.note) (Branches.resolve Blueprint.note) branches
      (branches.resolve find) :=
  match k, branches with
  | _, .nil => .leaf rfl rfl
  | _, .cons _ p rest => .two (p.traced hfind) (rest.traced hfind) rfl fun _ _ => rfl

end

namespace Blueprint

variable {k : Kind} {p q : Blueprint ν k} {P Q : ν → Prop} {r : ν}

/-- The references of the blueprint are in `P`. -/
def RefersTo (P : ν → Prop) (p : Blueprint ν k) : Prop := ∀ r ∈ p.refs, P r

theorem RefersTo.mono (h : p.RefersTo P) (hPQ : ∀ r, P r → Q r) : p.RefersTo Q :=
  fun r hr => hPQ r (h r hr)

theorem refersTo_ref (h : P r) : (ref r : Blueprint ν k).RefersTo P :=
  List.forall_mem_singleton.2 h

/-- To go through a blueprint notes its references, whatever was noted before. -/
theorem notes_refs (p : Blueprint ν k) : Notes p.refs (p.resolve note) p := by
  let find (_ : ν) : Option (Blueprint ν k) := none
  have htraced : Traced find (resolve note) (resolve note) p (p.resolve find) := p.traced nofun
  obtain ⟨refs, hrefs, -⟩ := htraced
  rw [refs_eq, hrefs, List.append_nil]
  exact hrefs

variable {find : μ → Option (Blueprint ν k)} {p : Blueprint μ k}

/-- What is put together, and the names in it. -/
theorem traced_refs (find : μ → Option (Blueprint ν k)) (p : Blueprint μ k) :
    (p.resolve find = none ↔ ∃ name ∈ p.refs, find name = none) ∧
      ∀ q, p.resolve find = some q →
        q.refs = p.refs.flatMap fun name => refsFound (find name) := by
  have htraced : Traced find (resolve note) (resolve note) p (p.resolve find) :=
    p.traced fun _ q _ => q.notes_refs
  obtain ⟨names, hnames, hnone, hrefs⟩ := htraced
  have hp : p.refs = names := by rw [refs_eq, hnames, List.append_nil]
  refine ⟨hp ▸ hnone, fun q hq => ?_⟩
  rw [q.refs_eq, hrefs q hq, List.append_nil, hp]

/-- A blueprint cannot be put together if there is a name without a blueprint. -/
theorem resolve_eq_none_iff : p.resolve find = none ↔ ∃ name ∈ p.refs, find name = none :=
  (traced_refs find p).1

/-- A blueprint that is put together refers to what its parts refer to. -/
theorem mem_refs_of_resolve (h : p.resolve find = some q) :
    r ∈ q.refs ↔ ∃ name ∈ p.refs, ∃ part, find name = some part ∧ r ∈ part.refs := by
  rw [(traced_refs find p).2 q h, List.mem_flatMap]
  refine exists_congr fun name => and_congr_right fun _ => ?_
  cases find name <;> simp [refsFound]

end Blueprint

end ParserKit
