import ParserKit.Proofs.Laws

/-!
# Forms of sequencing

The parsers that run others one after the other are written each for itself: one changes the value,
one drops the first value, one the second, one keeps both. Each of them behaves like a `bind`, whose
continuation says what becomes of the values. This includes the stage at which a run halts: what the
second parser does belongs to the run if the first one consumed nothing, and to the deferred reply
otherwise.

Two parsers that behave alike may stand for each other in a sequence, in the first place and behind
the values. With associativity it follows that a row of parsers behaves the same however it is
grouped: the parser between two others may be run with the one before it or with the one behind it,
and the same parser many times may be grouped to the left or to the right.

## Main results

* `Parser.Alike.bind`: parsers that behave alike, in a sequence
* `Parser.map_alike`, `Parser.between_alike`, `Parser.thenLeft_alike_thenRight`
* `Parser.sequencing_laws`: all forms of sequencing by `bind`
-/

namespace ParserKit

variable {σ α β γ δ : Type}

/-- Two computations show the same through `f`, and what follows depends on what is shown. -/
theorem Run.bind_eq_of_map_eq {x y : Exec α} {f : α → β} {k l : α → Exec γ}
    (h : f <$> x = f <$> y) (hkl : ∀ a b, f a = f b → k a = l b) : x >>= k = y >>= l := by
  cases x with
  | ok a =>
    cases y with
    | ok b => exact hkl a b (Run.pure_eq_pure.1 h)
    | error halt => cases h
  | error halt =>
    cases y with
    | ok b => cases h
    | error halt' =>
      cases h
      rfl

namespace Outcome

variable {o o' : Outcome Id σ α} {k l : α → Cursor σ → Exec (Outcome Id σ β)}

/-- Outcomes that show the same give the same reply. -/
theorem takeReply_eq_of_sight (h : o.sight = o'.sight) : o.takeReply = o'.takeReply := by
  simp only [sight_eq, Sighting.mk.injEq] at h
  exact h.2.2

/-- What is seen of a sequence depends only on what is seen of its parts. -/
theorem sight_andThen_congr (ho : o.sight = o'.sight)
    (hk : ∀ a rest, sight <$> k a rest = sight <$> l a rest) :
    sight <$> o.andThen k = sight <$> o'.andThen l := by
  have htake := takeReply_eq_of_sight ho
  have htag : o.isConsumed = o'.isConsumed := congrArg Sighting.consumed ho
  cases o with
  | empty r =>
    cases o' with
    | consumed reply => cases htag
    | empty r' =>
      obtain rfl := Run.pure_eq_pure.1 htake
      cases r with
      | ok a rest => exact hk a rest
      | error m => rfl
  | consumed reply =>
    cases o' with
    | empty r => cases htag
    | consumed reply' =>
      have hrest : (fun a rest => k a rest >>= takeReply) = fun a rest => l a rest >>= takeReply :=
        funext fun a => funext fun rest =>
          Run.bind_eq_of_map_eq (hk a rest) fun _ _ => takeReply_eq_of_sight
      have hreply : reply.take = reply'.take := htake
      rw [sight_andThen_consumed, sight_andThen_consumed, hrest, hreply]

/-- To go on with a success that has another value is to change the value. -/
theorem sight_andThen_map (o : Outcome Id σ α) (f : α → β) :
    sight <$> (o.andThen fun a rest => pure (emptyOk (f a) rest)) =
      (pure (o.map f).sight : Exec _) := by
  cases o with
  | empty r => cases r <;> rfl
  | consumed reply =>
    have hreply : (reply.take >>= fun r => r.andThen fun a rest =>
        (pure (emptyOk (f a) rest) : Exec (Outcome Id σ β)) >>= takeReply) =
          Reply.map f <$> reply.take := by
      rw [map_eq_pure_bind]
      refine bind_congr fun r => ?_
      cases r <;> rfl
    rw [sight_andThen_consumed, hreply, sight_eq]
    rfl

end Outcome

namespace Parser

variable {p p' q : Parser σ α} {k k' : α → Parser σ β}

/-! ## Parsers that behave alike -/

theorem Alike.refl (p : Parser σ α) : p.Alike p := fun _ => rfl

theorem Alike.symm (h : p.Alike p') : p'.Alike p := fun c => (h c).symm

theorem Alike.trans (h : p.Alike p') (h' : p'.Alike q) : p.Alike q := fun c => (h c).trans (h' c)

/-- Parsers that behave alike may stand for each other in a sequence. -/
theorem Alike.bind (h : p.Alike p') (hk : ∀ a, (k a).Alike (k' a)) :
    (p.bind k).Alike (p'.bind k') := by
  intro c
  simp only [sight, Parser.bind, map_bind]
  exact Run.bind_eq_of_map_eq (h c) fun o o' ho =>
    Outcome.sight_andThen_congr ho fun a rest => hk a rest

theorem Alike.seqRight {q q' : Parser σ β} (h : p.Alike p') (hq : q.Alike q') :
    (p.seqRight q).Alike (p'.seqRight q') :=
  h.bind fun _ => hq

/-! ## Forms of sequencing -/

/-- To change a value is to go on and return it. -/
theorem map_alike (p : Parser σ α) (f : α → β) : (p.map f).Alike (p.bind fun a => retn (f a)) := by
  intro c
  simp only [sight, map, Parser.bind, map_bind, map_pure]
  exact bind_congr fun o => (o.sight_andThen_map f).symm

theorem between_alike (opening : Parser σ β) (closing : Parser σ γ) (p : Parser σ α) :
    (between opening closing p).Alike
      (opening.bind fun _ => p.bind fun a => closing.map fun _ => a) :=
  bind_bind_alike opening (fun _ => p) fun a => closing.map fun _ => a

theorem seqRight_assoc_alike (p : Parser σ α) (q : Parser σ β) (r : Parser σ γ) :
    ((p.seqRight q).seqRight r).Alike (p.seqRight (q.seqRight r)) :=
  bind_bind_alike p (fun _ => q) fun _ => r

/-- One more of the same parser may be run before the others or behind them. -/
theorem seqRight_thenLeft_alike (p : Parser σ α) (n : Nat) :
    (p.seqRight (p.thenLeft n)).Alike (p.thenLeft (n + 1)) := by
  induction n with
  | zero => exact .refl _
  | succ n ih =>
    have hgroup :
        (p.seqRight (p.thenLeft (n + 1))).Alike ((p.seqRight (p.thenLeft n)).seqRight p) :=
      (seqRight_assoc_alike p (p.thenLeft n) p).symm
    exact hgroup.trans (ih.seqRight (.refl p))

theorem thenLeft_alike_thenRight (p : Parser σ α) (n : Nat) :
    (p.thenLeft n).Alike (p.thenRight n) := by
  induction n with
  | zero => exact .refl p
  | succ n ih => exact (seqRight_thenLeft_alike p n).symm.trans ((Alike.refl p).seqRight ih)

/-- Each form of sequencing behaves like the `bind` that says what becomes of the values, and the
same parser over and over behaves the same however it is grouped. -/
theorem sequencing_laws (p : Parser σ α) (q : Parser σ β) (opening : Parser σ γ)
    (closing : Parser σ δ) (f : α → β) (n : Nat) :
    (p.map f).Alike (p.bind fun a => retn (f a)) ∧
    (p.seqRight q).Alike (p.bind fun _ => q) ∧
    (p.seqLeft q).Alike (p.bind fun a => q.map fun _ => a) ∧
    (p.both q).Alike (p.bind fun a => q.map fun b => (a, b)) ∧
    (between opening closing p).Alike
      (opening.bind fun _ => p.bind fun a => closing.map fun _ => a) ∧
    (p.thenLeft n).Alike (p.thenRight n) :=
  ⟨p.map_alike f, .refl _, .refl _, .refl _, between_alike opening closing p,
    p.thenLeft_alike_thenRight n⟩

end Parser

end ParserKit
