import ParserKit.Proofs.Parser.Results
import ParserKit.Session.Parsing

/-!
# Laws of sequencing

Two parsers behave alike if nothing that can be seen of their runs tells them apart: both halt for
the same reason, or both show the same tag, and asking for the reply then halts for the same reason
or gives the same reply. Outcomes themselves are no measure, for a reply may be known in one and
deferred in the other.

In this sense parsers with `retn` and `bind` are a monad. The laws hold for all parsers and all
continuations: for those that keep to no contract, and for those that halt, be it in the run or
behind a deferred reply. What halts at which stage is the same on both sides.

## Main definitions

* `Parser.sight`: what is seen of a run
* `Parser.Alike p q`: the same is seen of the runs of `p` and `q`
* `Reply.andThen`: go on behind a success

## Main results

* `Outcome.takeReply_andThen`: the reply of a sequence is a sequence of replies
* `Parser.bind_laws`: the laws of a monad
-/

namespace ParserKit

variable {σ α β γ : Type}

namespace Reply

/-- Go on behind a success; a failure stays as it is. -/
def andThen (r : Reply σ α) (k : α → Cursor σ → Exec (Reply σ β)) : Exec (Reply σ β) :=
  match r with
  | .ok value rest => k value rest
  | .error message => pure (.error message)

/-- A reply that goes on to give its value back is what it was. -/
theorem andThen_ok (r : Reply σ α) : (r.andThen fun a rest => pure (.ok a rest)) = pure r := by
  cases r <;> rfl

theorem andThen_assoc (r : Reply σ α) (k : α → Cursor σ → Exec (Reply σ β))
    (l : β → Cursor σ → Exec (Reply σ γ)) :
    (r.andThen k >>= fun s => s.andThen l) =
      r.andThen fun a rest => k a rest >>= fun s => s.andThen l := by
  cases r <;> rfl

end Reply

namespace Outcome

/-- Whether a reply is looked at or taken, the same is found. -/
theorem sight_eq (o : Outcome Id σ α) :
    o.sight = ⟨o.isConsumed, o.failedEmpty, o.takeReply.run⟩ := by
  cases o with
  | empty r => rfl
  | consumed reply =>
    cases reply with
    | settled r => rfl
    | poisoned => rfl
    | pending work =>
      simp only [sight, lookReply, Deferred.look, takeReply, Deferred.take]
      -- a look tells why the work halted, though it leaves the reply poisoned
      cases h : work () <;> rfl

/-- Taking the reply of a sequence takes the reply of its first part, and behind a success that of
the second. -/
theorem takeReply_andThen (o : Outcome Id σ α) (k : α → Cursor σ → Exec (Outcome Id σ β)) :
    (o.andThen k >>= takeReply) =
      o.takeReply >>= fun r => r.andThen fun a rest => k a rest >>= takeReply := by
  cases o with
  | empty r => cases r <;> rfl
  | consumed reply =>
    simp only [andThen, defer, pure_bind, takeReply, Deferred.take]
    refine bind_congr fun r => ?_
    cases r <;> rfl

/-- A sequence that has consumed input shows its tag, and the rest is behind its reply. -/
theorem sight_andThen_consumed (reply : Deferred Id (Reply σ α))
    (k : α → Cursor σ → Exec (Outcome Id σ β)) :
    sight <$> (consumed reply).andThen k = (pure ⟨true, false,
      (reply.take >>= fun r => r.andThen fun a rest => k a rest >>= takeReply).run⟩ : Exec _) := by
  have hreply := takeReply_andThen (consumed reply) k
  simp only [andThen, pure_bind, map_pure, sight_eq] at hreply ⊢
  rw [hreply]
  rfl

/-- An outcome that goes on to give its value back is seen as it was: its deferred reply is taken
apart when it is asked for, and put together again. -/
theorem sight_andThen_ok (o : Outcome Id σ α) :
    sight <$> (o.andThen fun a rest => pure (emptyOk a rest)) = (pure o.sight : Exec _) := by
  cases o with
  | empty r => cases r <;> rfl
  | consumed reply =>
    have hreply : (reply.take >>= fun r => r.andThen fun a rest =>
        (pure (emptyOk a rest) : Exec (Outcome Id σ α)) >>= takeReply) = reply.take := by
      simp only [pure_bind, takeReply, emptyOk, Reply.andThen_ok, bind_pure]
    rw [sight_andThen_consumed, hreply, sight_eq]
    rfl

/-- Two continuations one after the other are one: on both sides the tag is known before either of
them is run. -/
theorem sight_andThen_assoc (o : Outcome Id σ α) (k : α → Cursor σ → Exec (Outcome Id σ β))
    (l : β → Cursor σ → Exec (Outcome Id σ γ)) :
    sight <$> (o.andThen k >>= fun o' => o'.andThen l) =
      sight <$> o.andThen fun a rest => k a rest >>= fun o' => o'.andThen l := by
  cases o with
  | empty r => cases r <;> rfl
  | consumed reply =>
    have hreply : (((consumed reply).andThen k >>= takeReply) >>= fun s => s.andThen fun b rest =>
          l b rest >>= takeReply) =
        reply.take >>= fun r => r.andThen fun a rest =>
          (k a rest >>= fun o' => o'.andThen l) >>= takeReply := by
      simp only [takeReply_andThen, bind_assoc, Reply.andThen_assoc, takeReply]
    rw [sight_andThen_consumed, ← hreply]
    exact sight_andThen_consumed _ l

end Outcome

namespace Parser

/-- What is seen of a run: why it halts, or its outcome. -/
def sight (p : Parser σ α) (c : Cursor σ) : Exec (Sighting σ α) := Outcome.sight <$> p.run c

/-- The same is seen of the runs of both parsers, from every cursor. -/
def Alike (p q : Parser σ α) : Prop := ∀ c, p.sight c = q.sight c

theorem retn_bind (a : α) (f : α → Parser σ β) : (retn a).bind f = f a := rfl

theorem bind_retn_alike (p : Parser σ α) : (p.bind retn).Alike p := by
  intro c
  simp only [sight, bind, map_bind]
  calc (p.run c >>= fun o => Outcome.sight <$> o.andThen fun a rest => (retn a).run rest)
      = p.run c >>= fun o => pure o.sight := bind_congr fun o => o.sight_andThen_ok
    _ = Outcome.sight <$> p.run c := (map_eq_pure_bind _ _).symm

theorem bind_bind_alike (p : Parser σ α) (f : α → Parser σ β) (g : β → Parser σ γ) :
    ((p.bind f).bind g).Alike (p.bind fun a => (f a).bind g) := by
  intro c
  simp only [sight, bind, bind_assoc, map_bind]
  refine bind_congr fun o => ?_
  rw [← map_bind, o.sight_andThen_assoc]

/-- Parsers are a monad, as far as can be seen. What a continuation does, and whether and at which
stage it halts, is seen alike on both sides of each law. -/
theorem bind_laws (a : α) (p : Parser σ α) (f : α → Parser σ β) (g : β → Parser σ γ) :
    ((retn a).bind f).Alike (f a) ∧
      (p.bind retn).Alike p ∧
      ((p.bind f).bind g).Alike (p.bind fun x => (f x).bind g) := by
  refine ⟨?_, p.bind_retn_alike, p.bind_bind_alike f g⟩
  rw [retn_bind]
  exact fun _ => rfl

/-- A continuation that gives up behind a consumed symbol does so when the reply is asked for. -/
example : ((satisfy (· == 'a')).bind fun _ =>
      (⟨fun _ => Run.fault (.raised "no")⟩ : Parser Char Nat)).sight (.start 0 #['a']) =
    pure ⟨true, false, .error (.fault (.raised "no"))⟩ :=
  rfl

end Parser

end ParserKit
