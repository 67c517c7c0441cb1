import ParserKit.Outcome

/-!
# Deferred replies are computed once

The reply of a consumed outcome is computed when it is first asked for. It may be asked for by
looking, any number of times, and at last by taking it. Before that the outcome may have been mapped
and continued, which puts its reply inside of the work of another one.

However the work is wrapped and however often the reply is asked for, the work is done once or, if
nobody asks, not at all. What it finds is what every look shows and what is taken in the end. If it
halts while it is looked at, that look tells why, and the reply is lost: all who ask later are told
that it is poisoned, and nothing is run for them.

Work has effects, and all of this is said by equations between computations with effects, for any
kind of effects. Where one side is `pure`, nothing is run; where the work stands once on one side,
it is run once.

## Main definitions

* `Outcome.mapRun`: change the value by a function that may halt
* `Chain`: functions and continuations to be put behind an outcome
* `Question`, `Outcome.ask`, `Outcome.inspect`: asking an outcome, and taking its reply at last
* `Question.answers`: the answers about a reply that is computed once

## Main results

* `Outcome.mapRun_pure`: functions that do not halt are mapped as by `Outcome.map`
* `Chain.wrap_consumed`: wrapping a consumed outcome runs nothing
* `Outcome.ask_defer_of_look`, `Outcome.ask_looked`: what is found, and what is left
* `Outcome.deferred_once`: the work is done at most once, and a halt while looking is for good
-/

namespace ParserKit

variable {n : Type → Type} [Monad n] {σ α β γ : Type}

/-! ## Functions that may halt -/

/-- The reply with its value changed by a function that may halt. -/
def Reply.mapRun (f : α → Run n β) : Reply σ α → Run n (Reply σ β)
  | .ok value rest => do return .ok (← f value) rest
  | .error message => return .error message

/-- What a continuation makes of a reply. A failure stays as it is, and nothing is run. -/
def Reply.follow (k : α → Cursor σ → Run n (Outcome n σ β)) : Reply σ α → Run n (Reply σ β)
  | .ok value rest => do (← k value rest).takeReply
  | .error message => return .error message

/-- The outcome with its value changed by a function that may halt. As in `Outcome.map` the function
is applied at once to an empty outcome, and to a consumed one when the reply is asked for. -/
def Outcome.mapRun (f : α → Run n β) : Outcome n σ α → Run n (Outcome n σ β)
  | .consumed reply => pure <| defer fun _ => do (← reply.take).mapRun f
  | .empty reply => do return .empty (← reply.mapRun f)

/-! A consumed outcome is not run by what is put behind it: only the work of its reply grows. -/

namespace Outcome

/-- A function waits behind a deferred reply until that is taken. -/
theorem mapRun_consumed (f : α → Run n β) (reply : Deferred n (Reply σ α)) :
    (consumed reply).mapRun f = pure (defer fun _ => reply.take >>= Reply.mapRun f) :=
  rfl

/-- So does a continuation: the reply is taken first, and gone on from in one of two ways. -/
theorem andThen_consumed (k : α → Cursor σ → Run n (Outcome n σ β))
    (reply : Deferred n (Reply σ α)) :
    (consumed reply).andThen k = pure (defer fun _ => reply.take >>= Reply.follow k) := by
  have hfollow : Reply.follow k = fun r => match r with
      | .ok value rest => do (← k value rest).takeReply
      | .error message => return .error message := by
    funext r
    cases r <;> rfl
  rw [hfollow]
  rfl

end Outcome

/-! ## Chains -/

/-- Functions and continuations that are put behind an outcome, one after the other. -/
inductive Chain (n : Type → Type) (σ : Type) : Type → Type → Type 1 where
  /-- Nothing. -/
  | nil {α : Type} : Chain n σ α α
  /-- A function, and what is put behind it. -/
  | map {α β γ : Type} (f : α → β) (rest : Chain n σ β γ) : Chain n σ α γ
  /-- A function that may halt, and what is put behind it. -/
  | mapRun {α β γ : Type} (f : α → Run n β) (rest : Chain n σ β γ) : Chain n σ α γ
  /-- A continuation, and what is put behind it. -/
  | andThen {α β γ : Type} (k : α → Cursor σ → Run n (Outcome n σ β)) (rest : Chain n σ β γ) :
      Chain n σ α γ

/-- The outcome with a chain put behind it. -/
def Chain.wrap {α β : Type} : Chain n σ α β → Outcome n σ α → Run n (Outcome n σ β)
  | .nil, o => pure o
  | .map f rest, o => rest.wrap (o.map f)
  | .mapRun f rest, o => do rest.wrap (← o.mapRun f)
  | .andThen k rest, o => do rest.wrap (← o.andThen k)

/-- What a chain makes of a reply. -/
def Chain.finish {α β : Type} : Chain n σ α β → Reply σ α → Run n (Reply σ β)
  | .nil, r => pure r
  | .map f rest, r => rest.finish (r.map f)
  | .mapRun f rest, r => do rest.finish (← r.mapRun f)
  | .andThen k rest, r => do rest.finish (← r.follow k)

/-- A deferred reply with a chain put behind it. -/
def Chain.behind : Chain n σ α β → Deferred n (Reply σ α) → Deferred n (Reply σ β)
  | .nil, reply => reply
  | c, reply => .pending fun _ => reply.take >>= c.finish

/-! ## Asking -/

/-- What can be asked of an outcome without using it up. -/
inductive Question where
  /-- Whether input was consumed. -/
  | isConsumed
  /-- Whether it is a failure without consumption. -/
  | failedEmpty
  /-- What its reply is. -/
  | look
deriving DecidableEq

/-- The answer to a question. -/
inductive Answer (σ α : Type) where
  /-- A truth value. -/
  | flag (b : Bool)
  /-- A reply, or why there is none. -/
  | reply (seen : Except Halt (Reply σ α))

namespace Outcome

/-- Ask an outcome one question after the other: the answers, and the outcome that is left. -/
def ask (o : Outcome n σ α) : List Question → n (List (Answer σ α) × Outcome n σ α)
  | [] => return ([], o)
  | .isConsumed :: qs => do
    let (answers, left) ← o.ask qs
    return (.flag o.isConsumed :: answers, left)
  | .failedEmpty :: qs => do
    let (answers, left) ← o.ask qs
    return (.flag o.failedEmpty :: answers, left)
  | .look :: qs => do
    let (seen, o) ← o.lookReply
    let (answers, left) ← o.ask qs
    return (.reply seen :: answers, left)

/-- Ask an outcome, and at last take its reply, if it is to be taken. -/
def inspect (o : Outcome n σ α) (qs : List Question) (taken : Bool) :
    n (List (Answer σ α) × Option (Except Halt (Reply σ α))) := do
  let (answers, left) ← o.ask qs
  if taken then return (answers, some (← left.takeReply.run))
  else return (answers, none)

end Outcome

/-- What is found by those who ask again: the same reply, or that it is poisoned. -/
def Reply.again : Except Halt (Reply σ α) → Except Halt (Reply σ α)
  | .ok r => .ok r
  | .error _ => .error (.fault .poisoned)

/-- The answers about a consumed outcome where the first one who looks finds `seen`. -/
def Question.answers (seen : Except Halt (Reply σ α)) : List Question → List (Answer σ α)
  | [] => []
  | .isConsumed :: qs => .flag true :: answers seen qs
  | .failedEmpty :: qs => .flag false :: answers seen qs
  | .look :: qs => .reply seen :: answers (Reply.again seen) qs

/-- What is found by the one who comes last, behind the questions. -/
def Question.last (seen : Except Halt (Reply σ α)) (qs : List Question) :
    Except Halt (Reply σ α) :=
  if .look ∈ qs then Reply.again seen else seen

/-- The consumed outcome that is left by a look. -/
def Outcome.looked : Except Halt (Reply σ α) → Outcome n σ α
  | .ok r => .consumed (.settled r)
  | .error _ => .consumed .poisoned

@[simp] theorem Reply.again_again (seen : Except Halt (Reply σ α)) :
    again (again seen) = again seen := by
  cases seen <;> rfl

/-- Taking a reply that was looked at runs nothing. -/
theorem Outcome.takeReply_looked (seen : Except Halt (Reply σ α)) :
    (looked seen : Outcome n σ α).takeReply.run = pure (Reply.again seen) := by
  cases seen <;> rfl

/-- Without a look it makes no difference what would be seen. -/
theorem Question.answers_congr {qs : List Question} (h : .look ∉ qs)
    (seen seen' : Except Halt (Reply σ α)) : answers seen qs = answers seen' qs := by
  induction qs with
  | nil => rfl
  | cons q qs ih =>
    have hqs : Question.look ∉ qs := fun hq => h (List.mem_cons_of_mem _ hq)
    cases q with
    | isConsumed => simp only [answers, ih hqs]
    | failedEmpty => simp only [answers, ih hqs]
    | look => exact absurd List.mem_cons_self h

section Lawful

variable [LawfulMonad n]

theorem Reply.mapRun_pure (f : α → β) (r : Reply σ α) :
    r.mapRun (n := n) (fun a => pure (f a)) = pure (r.map f) := by
  cases r with
  | ok value rest => simp only [mapRun, pure_bind, map]
  | error message => rfl

/-- For functions that do not halt this is the map of outcomes. -/
theorem Outcome.mapRun_pure (f : α → β) (o : Outcome n σ α) :
    o.mapRun (fun a => pure (f a)) = pure (o.map f) := by
  cases o with
  | consumed reply => simp only [mapRun, Reply.mapRun_pure, map, map_eq_pure_bind]
  | empty reply => simp only [mapRun, Reply.mapRun_pure, pure_bind, map]

namespace Chain

/-- Behind work that has not been done a chain is more work. -/
theorem behind_pending (c : Chain n σ α β) (work : Unit → Run n (Reply σ α)) :
    c.behind (.pending work) = .pending fun _ => work () >>= c.finish := by
  cases c with
  | nil => simp only [behind, finish, bind_pure]
  | map f rest => rfl
  | mapRun f rest => rfl
  | andThen k rest => rfl

/-- Behind a poisoned reply a chain is never reached. -/
theorem behind_poisoned (c : Chain n σ α β) :
    c.behind .poisoned = .poisoned ∨
      c.behind .poisoned = .pending fun _ => Run.fault .poisoned := by
  have hfault {δ : Type} (f : Reply σ α → Run n δ) :
      (Run.fault .poisoned : Run n (Reply σ α)) >>= f = Run.fault .poisoned := by
    exact ExceptT.ext (pure_bind _ _)
  cases c with
  | nil => exact .inl rfl
  | map f rest => exact .inr (congrArg Deferred.pending (funext fun _ => hfault _))
  | mapRun f rest => exact .inr (congrArg Deferred.pending (funext fun _ => hfault _))
  | andThen k rest => exact .inr (congrArg Deferred.pending (funext fun _ => hfault _))

/-- Wrapping a consumed outcome runs nothing. -/
theorem wrap_consumed (c : Chain n σ α β) (reply : Deferred n (Reply σ α)) :
    c.wrap (.consumed reply) = pure (.consumed (c.behind reply)) := by
  induction c with
  | nil => rfl
  | map f rest ih =>
    simp only [wrap, Outcome.map, Outcome.defer, ih, behind_pending, bind_map_left]
    rfl
  | mapRun f rest ih =>
    simp only [wrap, Outcome.mapRun_consumed, pure_bind, Outcome.defer, ih, behind_pending,
      bind_assoc]
    rfl
  | andThen k rest ih =>
    simp only [wrap, Outcome.andThen_consumed, pure_bind, Outcome.defer, ih, behind_pending,
      bind_assoc]
    rfl

end Chain

namespace Outcome

/-- A look does the work, and leaves what it found or a poisoned reply. -/
theorem lookReply_defer (work : Unit → Run n (Reply σ α)) :
    (defer work).lookReply = do
      let seen ← (work ()).run
      return (seen, looked seen) := by
  simp only [lookReply, defer, Deferred.look, bind_assoc]
  refine bind_congr fun seen => ?_
  cases seen <;> simp only [pure_bind] <;> rfl

/-- Those who look again are told what the first one found, or that the reply is poisoned; nothing
is run for them. -/
theorem ask_looked (seen : Except Halt (Reply σ α)) (qs : List Question) :
    (looked seen : Outcome n σ α).ask qs =
      pure (Question.answers (Reply.again seen) qs, looked seen) := by
  -- a reply that was looked at is known or poisoned, and stays so
  have hlook : (looked seen : Outcome n σ α).lookReply = pure (Reply.again seen, looked seen) := by
    cases seen <;> simp only [looked, lookReply, Deferred.look, pure_bind, Reply.again]
  have hconsumed : (looked seen : Outcome n σ α).isConsumed = true := by cases seen <;> rfl
  have hfailed : (looked seen : Outcome n σ α).failedEmpty = false := by cases seen <;> rfl
  induction qs with
  | nil => rfl
  | cons q qs ih =>
    cases q with
    | isConsumed => simp only [ask, ih, hconsumed, pure_bind, Question.answers]
    | failedEmpty => simp only [ask, ih, hfailed, pure_bind, Question.answers]
    | look => simp only [ask, ih, hlook, pure_bind, Question.answers, Reply.again_again]

/-- The tag is told without any work, which is left as it was. -/
theorem ask_defer_of_not_look {qs : List Question} (h : .look ∉ qs)
    (work : Unit → Run n (Reply σ α)) (seen : Except Halt (Reply σ α)) :
    (defer work).ask qs = pure (Question.answers seen qs, defer work) := by
  induction qs with
  | nil => rfl
  | cons q qs ih =>
    have hqs : Question.look ∉ qs := fun hq => h (List.mem_cons_of_mem _ hq)
    cases q with
    | isConsumed =>
      simp only [ask, ih hqs, pure_bind, Question.answers]
      rfl
    | failedEmpty =>
      simp only [ask, ih hqs, pure_bind, Question.answers]
      rfl
    | look => exact absurd List.mem_cons_self h

/-- Where somebody looks the work is done once, by the first one. -/
theorem ask_defer_of_look {qs : List Question} (h : .look ∈ qs)
    (work : Unit → Run n (Reply σ α)) :
    (defer work).ask qs = do
      let seen ← (work ()).run
      return (Question.answers seen qs, looked seen) := by
  induction qs with
  | nil => cases h
  | cons q qs ih =>
    cases q with
    | isConsumed =>
      have hqs : Question.look ∈ qs := by simpa using h
      simp only [ask, ih hqs, bind_assoc, pure_bind, Question.answers]
      rfl
    | failedEmpty =>
      have hqs : Question.look ∈ qs := by simpa using h
      simp only [ask, ih hqs, bind_assoc, pure_bind, Question.answers]
      rfl
    | look => simp only [ask, lookReply_defer, bind_assoc, pure_bind, ask_looked, Question.answers]

/-- Whoever asks for the reply, looking or taking, the work is done once. -/
theorem inspect_defer {qs : List Question} {taken : Bool} (h : .look ∈ qs ∨ taken = true)
    (work : Unit → Run n (Reply σ α)) :
    (defer work).inspect qs taken = do
      let seen ← (work ()).run
      return (Question.answers seen qs, if taken then some (Question.last seen qs) else none) := by
  by_cases hlook : Question.look ∈ qs
  · -- the first look has done the work, and taking finds what it left
    simp only [inspect, ask_defer_of_look hlook, bind_assoc, pure_bind, Question.last, hlook,
      if_true]
    refine bind_congr fun seen => ?_
    cases taken with
    | true => simp only [if_true, takeReply_looked, pure_bind]
    | false => rfl
  · -- nobody looks, so the work is left to the one who takes the reply
    obtain rfl : taken = true := h.resolve_left hlook
    have hask := ask_defer_of_not_look hlook work (.error .exhausted)
    simp only [inspect, hask, pure_bind, if_true, Question.last, hlook, if_false]
    refine bind_congr fun seen => ?_
    rw [Question.answers_congr hlook seen]

/-- Where nobody asks for the reply nothing is run, and it makes no difference what would be
seen. -/
theorem inspect_defer_of_not_look {qs : List Question} (h : .look ∉ qs)
    (work : Unit → Run n (Reply σ α)) (seen : Except Halt (Reply σ α)) :
    (defer work).inspect qs false = pure (Question.answers seen qs, none) := by
  simp only [inspect, ask_defer_of_not_look h work seen, pure_bind, Bool.false_eq_true, if_false]

/-- Whatever is put behind a poisoned reply, all who ask are told that it is poisoned, and nothing
is run. -/
theorem inspect_behind_poisoned (c : Chain n σ α β) (qs : List Question) (taken : Bool) :
    (consumed (c.behind .poisoned)).inspect qs taken =
      pure (Question.answers (.error (.fault .poisoned)) qs,
        if taken then some (.error (.fault .poisoned)) else none) := by
  obtain hover | hover := c.behind_poisoned
  · -- nothing was put behind it
    have hask := ask_looked (n := n) (σ := σ) (α := β) (.error (.fault .poisoned)) qs
    have htake := takeReply_looked (n := n) (σ := σ) (α := β) (.error (.fault .poisoned))
    simp only [looked, Reply.again] at hask htake
    cases taken with
    | true => simp only [hover, inspect, hask, pure_bind, if_true, htake]
    | false => simp only [hover, inspect, hask, pure_bind, Bool.false_eq_true, if_false]
  · -- what was put behind it is never reached, so its work is to fault
    by_cases hdemand : Question.look ∈ qs ∨ taken = true
    · rw [hover]
      refine (inspect_defer hdemand _).trans ?_
      have hlast : Question.last (.error (.fault .poisoned) : Except Halt (Reply σ β)) qs =
          .error (.fault .poisoned) := by
        simp only [Question.last, Reply.again, ite_self]
      have hfault : (Run.fault .poisoned : Run n (Reply σ β)).run =
          pure (.error (.fault .poisoned)) := rfl
      simp only [hfault, pure_bind, hlast]
    · obtain ⟨hlook, htaken⟩ := not_or.1 hdemand
      obtain rfl : taken = false := Bool.eq_false_iff.2 htaken
      rw [hover]
      exact inspect_defer_of_not_look hlook _ _

/-- Let the reply of a consumed outcome be deferred, and functions and continuations be put behind
it. This runs nothing. Whatever is asked then, the work and what stands behind it are run once if
somebody looks at the reply or takes it, and not at all if nobody does. What is found is what every
look shows and what is taken. If the work halts, or a function or a continuation behind it does, the
first look tells why, all later ones tell that the reply is poisoned, and so does taking it; what is
put behind it from then on is told the same, and nothing is run. -/
theorem deferred_once (work : Unit → Run n (Reply σ α)) (c : Chain n σ α β) :
    ∃ o : Outcome n σ β, c.wrap (defer work) = pure o ∧
      (∀ qs, .look ∉ qs → ∀ seen, o.inspect qs false = pure (Question.answers seen qs, none)) ∧
      (∀ qs taken, .look ∈ qs ∨ taken = true → o.inspect qs taken = do
        let seen ← (work () >>= c.finish).run
        return (Question.answers seen qs,
          if taken then some (Question.last seen qs) else none)) ∧
      (∀ qs, .look ∈ qs → o.ask qs = do
        let seen ← (work () >>= c.finish).run
        return (Question.answers seen qs, looked seen)) ∧
      (∀ {γ : Type} (later : Chain n σ β γ) (halt : Halt),
        ∃ o' : Outcome n σ γ, later.wrap (looked (.error halt)) = pure o' ∧
          ∀ qs taken, o'.inspect qs taken =
            pure (Question.answers (.error (.fault .poisoned)) qs,
              if taken then some (.error (.fault .poisoned)) else none)) ∧
      Fault.poisoned.message = "Lazy instance has previously been poisoned" := by
  refine ⟨defer fun _ => work () >>= c.finish, ?_, ?_, ?_, ?_, ?_, rfl⟩
  · exact (c.wrap_consumed (.pending work)).trans (by rw [c.behind_pending]; rfl)
  · intro qs hlook seen
    exact inspect_defer_of_not_look hlook _ seen
  · intro qs taken hdemand
    exact inspect_defer hdemand _
  · intro qs hlook
    exact ask_defer_of_look hlook _
  · intro γ later halt
    exact ⟨_, later.wrap_consumed .poisoned, inspect_behind_poisoned later⟩

end Outcome

end Lawful

/-- Work that leaves a note when it is run, and then ends in the given way. -/
def noted (note : String) (found : Except Halt α) : Run (StateM (List String)) α :=
  ExceptT.mk fun notes => (found, notes ++ [note])

/-- A function that leaves a note when it is run. -/
def notedSucc : Chain (StateM (List String)) Char Nat Nat :=
  .mapRun (fun v => noted "function" (.ok (v + 1))) .nil

/-- The work of a success is run once, and so is the function behind it; everybody finds the same
reply. Work that gives up is run once too, and the function behind it never: the first look is told
the reason, and the second one, like the one who takes the reply, that it is poisoned. -/
theorem deferred_once_of_noted :
    (∃ o, notedSucc.wrap (.defer fun _ => noted "work" (.ok (.ok 1 (.start 0 #[])))) = pure o ∧
      (o.inspect [.look, .isConsumed, .look] true).run [] =
        (([.reply (.ok (.ok 2 (.start 0 #[]))), .flag true, .reply (.ok (.ok 2 (.start 0 #[])))],
          some (.ok (.ok 2 (.start 0 #[])))), ["work", "function"])) ∧
    (∃ o, notedSucc.wrap (.defer fun _ => noted "work" (.error (.fault (.raised "no")))) = pure o ∧
      (o.inspect [.failedEmpty] false).run [] = (([.flag false], none), []) ∧
      (o.inspect [.look, .look] true).run [] =
        (([.reply (.error (.fault (.raised "no"))), .reply (.error (.fault .poisoned))],
          some (.error (.fault .poisoned))), ["work"])) := by
  constructor
  · obtain ⟨o, hwrap, -, hdemand, -⟩ := Outcome.deferred_once
      (fun _ => noted "work" (.ok (.ok 1 (.start 0 #[])))) notedSucc
    refine ⟨o, hwrap, ?_⟩
    rw [hdemand _ true (.inr rfl)]
    rfl
  · obtain ⟨o, hwrap, hsilent, hdemand, -⟩ := Outcome.deferred_once
      (fun _ => noted "work" (.error (.fault (.raised "no")))) notedSucc
    refine ⟨o, hwrap, ?_, ?_⟩
    · rw [hsilent [.failedEmpty] (by decide) (.error .exhausted)]
      rfl
    · rw [hdemand _ true (.inr rfl)]
      rfl

end ParserKit
