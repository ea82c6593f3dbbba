import TenantBilling.Proofs.Handling
import TenantBilling.Proofs.Interleaving

/-! The delivery of an event of an organization, stage by stage: it asks the ledger, looks the
lock up and waits for it, asks again, does the work of the event, lets the lock go, and marks
the event. One relation says what a delivery can do in a turn; what holds of all interleavings
is proved from it. -/

namespace TenantBilling

/-- A program that ends with this result, whatever is answered. -/
def Proc.Ends {α : Type} (r : α) : Proc α → Prop
  | .done a => a = r
  | .call _ next => ∀ a, (next a).Ends r

theorem Proc.Ends.bind {α β : Type} {r : β} {f : α → Proc β} (p : Proc α)
    (h : ∀ a, (f a).Ends r) : (p.bind f).Ends r := by
  induction p with
  | done a => exact h a
  | call q next ih => exact ih

/-- A call that a delivery makes after it let the lock go. -/
def Call.IsClosing (id : String) : Call → Prop
  | .provider (.updateMetadata _ _) => True
  | .ledger (.mark marked) => marked = id
  | _ => False

/-- An event of an organization. -/
structure TenantEvent extends Event where
  address : String
  tenant : kind.address? = some address

namespace Delivery

/-- What a delivery answers when the work of its event ended so. -/
def answerTo (done : Except Failure (Option CustomerBackfill)) : Except Failure DeliveryOutcome :=
  done.map fun _ => .processed

/-- What is left to do when the work of an event is done and the lock let go. -/
def finish (id : String) :
    Except Failure (Option CustomerBackfill) → Proc (Except Failure DeliveryOutcome)
  | .error f => .done (.error f)
  | .ok followUp =>
    (Reconcile.runFollowUp followUp).bind fun _ =>
      (tryMark markAttempts id).bind fun _ => .done (.ok .processed)

theorem tryMark_within (id : String) (n : Nat) : (tryMark n id).Within (Call.IsClosing id) := by
  induction n with
  | zero => trivial
  | succ n ih =>
    refine ⟨rfl, fun a => ?_⟩
    cases a with
    | ok => trivial
    | error => exact ih

theorem finish_within (id : String) (done : Except Failure (Option CustomerBackfill)) :
    (finish id done).Within (Call.IsClosing id) := by
  rcases done with f | _ | b
  · trivial
  · exact (tryMark_within id markAttempts).bind fun _ => trivial
  · exact ⟨trivial, fun _ => (tryMark_within id markAttempts).bind fun _ => trivial⟩

theorem finish_ends (id : String) (done : Except Failure (Option CustomerBackfill)) :
    (finish id done).Ends (answerTo done) := by
  cases done with
  | error f => exact rfl
  | ok followUp => exact .bind _ fun _ => .bind _ fun _ => rfl

/-- How far the delivery of an event has come. -/
inductive Stage (e : TenantEvent) where
  | fresh
  /-- It was told that the event is new. -/
  | admitted
  /-- It looked the lock up. -/
  | waiting (ticket : Nat)
  /-- It holds the lock. -/
  | entered (ticket : Nat)
  /-- It was told again that the event is new, and does its work. -/
  | working (ticket : Nat) (rest : Proc (Except Failure (Option CustomerBackfill)))
    (within : rest.Within Call.IsReconciling)
  /-- It holds the lock, and was told that the event is marked. -/
  | refused (ticket : Nat)
  /-- It let the lock go after the work was done so. -/
  | finishing (done : Except Failure (Option CustomerBackfill))
    (rest : Proc (Except Failure DeliveryOutcome)) (within : rest.Within (Call.IsClosing e.id))
    (ends : rest.Ends (answerTo done))
  /-- The event was marked already. -/
  | skipped

/-- What is left of a delivery from the work of its event on. -/
def atWork (id : String) (ticket : Nat) (rest : Proc (Except Failure (Option CustomerBackfill))) :
    Proc (Except Failure DeliveryOutcome) :=
  rest.bind fun done => .call (.release ticket) fun _ => finish id done

/-- What is left of a delivery that holds the lock. -/
def atLock (e : TenantEvent) (ticket : Nat) : Proc (Except Failure DeliveryOutcome) :=
  .call (.ledger (.isMarked e.id)) fun
    | .error f => .call (.release ticket) fun _ => .done (.error f)
    | .ok true => .call (.release ticket) fun _ => .done (.ok .alreadyProcessed)
    | .ok false => atWork e.id ticket (work e.toEvent).run

/-- What is left of a delivery that was told that its event is new. -/
def atDoor (e : TenantEvent) : Proc (Except Failure DeliveryOutcome) :=
  .call (.join e.address) fun ticket => .call (.acquire ticket) fun _ => atLock e ticket

/-- What is left of a delivery. -/
def Stage.program {e : TenantEvent} : Stage e → Proc (Except Failure DeliveryOutcome)
  | .fresh => .call (.ledger (.isMarked e.id)) fun
    | .error f => .done (.error f)
    | .ok true => .done (.ok .alreadyProcessed)
    | .ok false => atDoor e
  | .admitted => atDoor e
  | .waiting ticket => .call (.acquire ticket) fun _ => atLock e ticket
  | .entered ticket => atLock e ticket
  | .working ticket rest _ => atWork e.id ticket rest
  | .refused ticket => .call (.release ticket) fun _ => .done (.ok .alreadyProcessed)
  | .finishing _ rest _ _ => rest
  | .skipped => .done (.ok .alreadyProcessed)

/-! ## Deliveries as they are handled -/

theorem run_lift_bind {α β : Type} (p : Proc α) (f : α → Action β) :
    (ExceptT.lift p >>= f).run = p.bind fun a => (f a).run := by
  rw [Action.run_bind]
  change Proc.bind (Except.ok <$> p) _ = _
  rw [map_eq_pure_bind]
  exact Proc.bind_assoc p _ _

theorem run_finish (followUp : Option CustomerBackfill) (id : String) :
    (do
      ExceptT.lift (Reconcile.runFollowUp followUp)
      mark id
      pure .processed : Action DeliveryOutcome).run = finish id (.ok followUp) := by
  unfold mark
  simp only [run_lift_bind]
  rfl

theorem run_withTenant {α : Type} (tenant : String) (body : Action α) :
    (Action.withTenant tenant body).run = .call (.join tenant) fun ticket =>
      .call (.acquire ticket) fun _ => body.run.bind fun r =>
        .call (.release ticket) fun _ => .done r := rfl

theorem run_applyOnce (id : String) (apply : Action (Option CustomerBackfill)) :
    (applyOnce id apply).run = .call (.ledger (.isMarked id)) fun
      | .error f => .done (.error f)
      | .ok true => .done (.ok none)
      | .ok false => apply.run.bind fun done => .done (done.map some) := by
  unfold applyOnce
  rw [Action.run_bind]
  refine congrArg (Proc.call _) (funext fun r => ?_)
  rcases r with f | _ | _
  · rfl
  · change (some <$> apply).run = _
    rw [map_eq_pure_bind, Action.run_bind]
    congr 1
    funext done
    cases done <;> rfl
  · rfl

end Delivery

namespace TenantEvent
open Delivery
variable (e : TenantEvent)

theorem kind_ne : e.kind ≠ .unhandled := by
  intro hk
  have tenant := e.tenant
  rw [hk] at tenant
  cases tenant

/-- The event is dispatched to the lock of its organization. -/
theorem dispatch_eq :
    dispatch e.toEvent = Action.withTenant e.address (applyOnce e.id (work e.toEvent)) := by
  have tenant := e.tenant
  unfold dispatch work
  cases hk : e.kind with
  | subscription s =>
    rw [hk] at tenant
    rw [← Option.some.inj tenant]
  | invoice s =>
    rw [hk] at tenant
    rw [← Option.some.inj tenant]
  | product s =>
    rw [hk] at tenant
    cases tenant
  | unhandled => exact absurd hk e.kind_ne

theorem handle_run : (handle e.toEvent).run = (Stage.fresh : Stage e).program := by
  unfold handle
  rw [Action.run_bind]
  refine congrArg (Proc.call _) (funext fun r => ?_)
  rcases r with f | _ | _
  · rfl
  · simp only [Proc.bind, Bool.false_eq_true, if_false, if_neg e.kind_ne]
    rw [Action.run_bind, e.dispatch_eq, run_withTenant, run_applyOnce]
    refine congrArg (Proc.call _) (funext fun ticket => ?_)
    refine congrArg (Proc.call _) (funext fun _ => ?_)
    refine congrArg (Proc.call _) (funext fun r => ?_)
    rcases r with f | _ | _
    · rfl
    · change Proc.bind (Proc.bind (Proc.bind _ _) _) _ = _
      rw [Proc.bind_assoc, Proc.bind_assoc]
      unfold atWork
      congr 1
      funext done
      cases done with
      | error f => rfl
      | ok followUp => exact congrArg (Proc.call _) (funext fun _ => run_finish followUp e.id)
    · rfl
  · rfl

end TenantEvent

/-! ## Turns -/

/-- Whether an event is marked by now, and the mark counts. -/
def World.hasMark (w : World) (id : String) : Bool := w.ledger.ledger.isMarked w.clock id

namespace Delivery

/-- What a delivery does in a turn in which it goes on: the call it makes, and the stage it
comes to. -/
inductive Stage.Advance {e : TenantEvent} (w : World) : Stage e → Call → Stage e → Prop
  | pass (new : w.hasMark e.id = false) :
    Advance w .fresh (.ledger (.isMarked e.id)) .admitted
  | skip (known : w.hasMark e.id = true) :
    Advance w .fresh (.ledger (.isMarked e.id)) .skipped
  | join : Advance w .admitted (.join e.address) (.waiting w.nextTicket)
  | enter {ticket} (free : (w.locks.poll ticket).2 = true) :
    Advance w (.waiting ticket) (.acquire ticket) (.entered ticket)
  | begin {ticket} (new : w.hasMark e.id = false) :
    Advance w (.entered ticket) (.ledger (.isMarked e.id))
      (.working ticket (work e.toEvent).run (work_within _))
  | refuse {ticket} (known : w.hasMark e.id = true) :
    Advance w (.entered ticket) (.ledger (.isMarked e.id)) (.refused ticket)
  | work {ticket q next within} :
    Advance w (.working ticket (.call q next) within) q
      (.working ticket (next (w.answer q).1) (within.2 _))
  | leave {ticket done within} :
    Advance w (.working ticket (.done done) within) (.release ticket)
      (.finishing done (finish e.id done) (finish_within _ _) (finish_ends _ _))
  | giveUp {ticket} : Advance w (.refused ticket) (.release ticket) .skipped
  | finish {done q next within ends} :
    Advance w (.finishing done (.call q next) within ends) q
      (.finishing done (next (w.answer q).1) (within.2 _) (ends _))

/-- What a delivery was told when it last asked the ledger, if it did. -/
def Stage.told? {e : TenantEvent} : Stage e → Option Bool
  | .fresh => none
  | .refused _ => some true
  | .skipped => some true
  | _ => some false

/-- A delivery asks and is told what the ledger has, or does not ask and knows what it knew. -/
theorem Stage.Advance.told {e : TenantEvent} {w : World} {s s' : Stage e} {q : Call}
    (h : s.Advance w q s') :
    (q = .ledger (.isMarked e.id) ∧ s.told? ≠ some true ∧ s'.told? = some (w.hasMark e.id)) ∨
      (q ≠ .ledger (.isMarked e.id) ∧ s'.told? = s.told? ∧ s.told? ≠ none) := by
  cases h with
  | pass new => exact Or.inl ⟨rfl, nofun, congrArg some new.symm⟩
  | skip known => exact Or.inl ⟨rfl, nofun, congrArg some known.symm⟩
  | begin new => exact Or.inl ⟨rfl, nofun, congrArg some new.symm⟩
  | refuse known => exact Or.inl ⟨rfl, nofun, congrArg some known.symm⟩
  | @work _ q _ within =>
    have reconciling := within.1
    refine Or.inr ⟨?_, rfl, nofun⟩
    rintro rfl
    cases reconciling
  | @finish _ q _ within _ =>
    have closing := within.1
    refine Or.inr ⟨?_, rfl, nofun⟩
    rintro rfl
    cases closing
  | _ => exact Or.inr ⟨nofun, rfl, nofun⟩

/-- A delivery does not sweep the ledger. -/
theorem Stage.Advance.ne_purge {e : TenantEvent} {w : World} {s s' : Stage e} {q : Call}
    (h : s.Advance w q s') : q ≠ .ledger .purge := by
  rintro rfl
  cases h with
  | @work _ _ _ within => cases within.1
  | @finish _ _ _ within _ => cases within.1

end Delivery

namespace Crowd
open Delivery
variable {ι : Type} [DecidableEq ι] {c : Crowd ι (Except Failure DeliveryOutcome)} {i : ι}
  {e : TenantEvent} {s : Stage e}

/-- What the turn of a delivery comes to, when the ledger can be asked. -/
inductive Turned (c : Crowd ι (Except Failure DeliveryOutcome)) (i : ι) (s : Stage e) :
    Crowd ι (Except Failure DeliveryOutcome) → Prop
  /-- It has ended. -/
  | ended {r} (done : s.program = .done r) : Turned c i s c
  /-- It waits for the lock. -/
  | waits {ticket} (stage : s = .waiting ticket) (taken : (c.world.locks.poll ticket).2 = false) :
    Turned c i s { c with world := (c.world.answer (.acquire ticket)).2 }
  | goes {q} {s' : Stage e} (advance : s.Advance c.world q s') :
    Turned c i s ⟨(c.world.answer q).2, Function.update c.tasks i s'.program, c.log ++ [(i, q)]⟩

theorem turned (pool : c.world.poolClosed = false) (plain : c.world.ledger.IsPlain)
    (hi : c.tasks i = s.program) : Turned c i s (c.step (.task i)) := by
  have asked : (c.world.answer (.ledger (.isMarked e.id))).1 =
      .ok (c.world.hasMark e.id) := by
    rw [World.answer_ledger pool, plain.answer_isMarked]
    rfl
  cases s with
  | fresh =>
    rw [step_call hi rfl, asked]
    cases hm : c.world.hasMark e.id with
    | false => exact .goes (.pass hm)
    | true => exact .goes (.skip hm)
  | admitted =>
    rw [step_call hi rfl]
    exact .goes .join
  | waiting ticket =>
    cases hpoll : (c.world.locks.poll ticket).2 with
    | false =>
      rw [step_blocked hi (by simp only [World.blocks, hpoll, Bool.not_false])]
      exact .waits rfl hpoll
    | true =>
      rw [step_call hi (by simp only [World.blocks, hpoll, Bool.not_true])]
      exact .goes (.enter hpoll)
  | entered ticket =>
    rw [step_call hi rfl, asked]
    cases hm : c.world.hasMark e.id with
    | false => exact .goes (.begin hm)
    | true => exact .goes (.refuse hm)
  | working ticket rest within =>
    cases rest with
    | done done =>
      rw [step_call hi rfl]
      exact .goes .leave
    | call q next =>
      have free : c.world.blocks q = false := by
        have reconciling := within.1
        cases q <;> first | rfl | cases reconciling
      rw [step_call hi free]
      exact .goes .work
  | refused ticket =>
    rw [step_call hi rfl]
    exact .goes .giveUp
  | finishing done rest within ends =>
    cases rest with
    | done r =>
      rw [step_done hi]
      exact .ended rfl
    | call q next =>
      have free : c.world.blocks q = false := by
        have closing := within.1
        cases q <;> first | rfl | cases closing
      rw [step_call hi free]
      exact .goes .finish
  | skipped =>
    rw [step_done hi]
    exact .ended rfl

/-- Deliveries of events of organizations, none of which has begun. -/
def deliveries (w : World) (events : ι → TenantEvent) : Crowd ι (Except Failure DeliveryOutcome) :=
  ⟨w, fun i => (handle (events i).toEvent).run, []⟩

variable {events : ι → TenantEvent} {σ : (i : ι) → Stage (events i)}

theorem tasks_update (h : ∀ k, c.tasks k = (σ k).program) (i : ι) (s : Stage (events i)) (k : ι) :
    Function.update c.tasks i s.program k = (Function.update σ i s k).program := by
  by_cases hk : k = i
  · subst hk
    rw [Function.update_self, Function.update_self]
  · rw [Function.update_of_ne hk, Function.update_of_ne hk]
    exact h k

end Crowd

/-- A delivery that has ended found its event marked, or ends as its work did. -/
theorem Delivery.Stage.program_eq_done {e : TenantEvent} {s : Stage e}
    {r : Except Failure DeliveryOutcome} (h : s.program = .done r) :
    (s = .skipped ∧ r = .ok .alreadyProcessed) ∨
      ∃ done rest within ends, s = .finishing done rest within ends ∧ r = answerTo done := by
  cases s with
  | working ticket rest within => cases rest <;> cases h
  | finishing done rest within ends =>
    refine Or.inr ⟨done, rest, within, ends, rfl, ?_⟩
    cases rest with
    | call q next => cases h
    | done a =>
      have ha : a = r := Proc.done.inj h
      rw [← ha]
      exact ends
  | skipped => exact Or.inl ⟨rfl, (Proc.done.inj h).symm⟩
  | _ => cases h

end TenantBilling
