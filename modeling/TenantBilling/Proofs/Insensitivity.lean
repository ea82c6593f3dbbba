import TenantBilling.Proofs.ClosedForm
import TenantBilling.Proofs.Convergence
import TenantBilling.Proofs.Stages

/-! What the work of an event sees of the world: the store, the clock, the ids to come, and what
the provider says, the metadata of customers apart. In two worlds that look the same the work
of an event makes the same calls, ends the same and leaves worlds that look the same. So it does
not matter to it what other deliveries do to the ledger, to the locks and to the metadata. -/

namespace TenantBilling

open Calendar

/-- A customer as an event makes use of it, its metadata apart. -/
def Customer.face (c : Customer) : String × Option String := (c.id, c.email)

/-- Two answers that differ, if at all, in the metadata of a customer. -/
def Call.SameAnswer : (q : Call) → q.Answer → q.Answer → Prop
  | .provider (.customer _), a, b => a.map Customer.face = b.map Customer.face
  | _, a, b => a = b

theorem Call.sameAnswer_refl (q : Call) (a : q.Answer) : q.SameAnswer a a := by
  cases q with
  | provider c => cases c <;> rfl
  | _ => rfl

/-- Programs that reconcile in step: they make the same calls while they are answered the same,
and their results are related. -/
inductive Proc.Alike {α : Type} (R : α → α → Prop) : Proc α → Proc α → Prop
  | done {a b} (same : R a b) : Alike R (.done a) (.done b)
  | call {q next next'} (reconciling : q.IsReconciling)
    (same : ∀ a b, q.SameAnswer a b → Alike R (next a) (next' b)) :
    Alike R (.call q next) (.call q next')

theorem Proc.Alike.bind {α β : Type} {R : α → α → Prop} {S : β → β → Prop} {p p' : Proc α}
    {f f' : α → Proc β} (h : p.Alike R p') (hf : ∀ a b, R a b → (f a).Alike S (f' b)) :
    (p.bind f).Alike S (p'.bind f') := by
  induction h with
  | done same => exact hf _ _ same
  | call reconciling _ ih => exact .call reconciling ih

/-- Results that are related, or the same failure. -/
inductive SameResult {α : Type} (R : α → α → Prop) : Except Failure α → Except Failure α → Prop
  | ok {a b} (same : R a b) : SameResult R (.ok a) (.ok b)
  | error (f) : SameResult R (.error f) (.error f)

namespace Action
variable {α β : Type} {R : α → α → Prop} {S : β → β → Prop} {x y : Action α}
  {f g : α → Action β}

def Alike (R : α → α → Prop) (x y : Action α) : Prop := x.run.Alike (SameResult R) y.run

theorem alike_pure {a b : α} (h : R a b) : Alike R (pure a) (pure b) := .done (.ok h)

theorem alike_fail (e : BillingError) : Alike R (fail e) (fail e) := .done (.error _)

theorem Alike.bind (h : x.Alike R y) (hf : ∀ a b, R a b → (f a).Alike S (g b)) :
    (x >>= f).Alike S (y >>= g) := by
  unfold Alike
  rw [run_bind, run_bind]
  refine Proc.Alike.bind h fun r r' same => ?_
  cases same with
  | ok same => exact hf _ _ same
  | error e => exact .done (.error e)

/-- Two sequences that begin with the same go on with the same. -/
theorem Alike.bind_eq (h : x.Alike Eq x) (hf : ∀ a, (f a).Alike S (g a)) :
    (x >>= f).Alike S (x >>= g) := by
  refine h.bind ?_
  rintro a _ rfl
  exact hf a

theorem alike_store (c : StoreCall) : Alike Eq (store c) (store c) := by
  refine .call trivial ?_
  rintro (e | a) _ rfl
  · exact .done (.error _)
  · exact .done (.ok rfl)

theorem alike_orFail (a : Option α) (e : BillingError) : Alike Eq (orFail a e) (orFail a e) := by
  cases a with
  | none => exact alike_fail e
  | some a => exact alike_pure rfl

/-- A query is like itself. -/
theorem alike_of_within (h : x.Within Call.IsQuery) : x.Alike Eq x := by
  have self {p : Proc (Except Failure α)} (hp : p.Within Call.IsQuery) :
      p.Alike (SameResult Eq) p := by
    induction p with
    | done r =>
      cases r with
      | ok a => exact .done (.ok rfl)
      | error e => exact .done (.error e)
    | call q next ih =>
      refine .call (hp.1.isReconciling q) fun a b same => ?_
      have hab : a = b := by
        cases q with
        | provider c => cases hp.1
        | _ => exact same
      rw [hab]
      exact ih b (hp.2 b)
  exact self h

end Action

/-! ## The work of an event -/

namespace Reconcile
open TenantBilling.Action

theorem resolveCustomer_alike (c : CustomerRef) :
    Alike (fun a b => a.map Customer.face = b.map Customer.face)
      (resolveCustomer c) (resolveCustomer c) := by
  unfold resolveCustomer
  split
  · exact alike_pure rfl
  · refine .call trivial fun a b same => .done (.ok ?_)
    have face (a : Except BillingError Customer) :
        a.toOption.map Customer.face = (a.map Customer.face).toOption := by
      cases a <;> rfl
    rw [face, face, same]

theorem writeSubscription_alike (org : Organization) (subscription : Subscription) :
    Alike Eq (writeSubscription org subscription) (writeSubscription org subscription) := by
  unfold writeSubscription
  split
  · exact alike_pure rfl
  · exact (alike_store _).bind_eq fun _ => alike_pure rfl

/-- The record of a subscription has nothing of the customer but its email. -/
theorem liveSubscription_congr {e : SubscriptionEvent} {plan : Plan} {previous : Subscription}
    {customer customer' : Option Customer}
    (h : customer.map Customer.face = customer'.map Customer.face) :
    liveSubscription e plan previous customer = liveSubscription e plan previous customer' := by
  have email (c : Option Customer) : c.bind (·.email) = (c.map Customer.face).bind (·.2) := by
    cases c <;> rfl
  simp only [liveSubscription, email, h]

/-- What an active subscription comes to does not depend on metadata, follow-up work apart. -/
theorem applyLive_alike (org : Organization) (e : SubscriptionEvent) :
    Alike (fun a b => a.outcome = b.outcome) (applyLive org e) (applyLive org e) := by
  unfold applyLive
  refine (alike_store _).bind_eq fun plan? => (alike_orFail _ _).bind_eq fun plan => ?_
  refine (resolveCustomer_alike e.customer).bind fun customer customer' same => ?_
  dsimp only
  rw [liveSubscription_congr same]
  refine (writeSubscription_alike org _).bind_eq fun outcome => ?_
  split
  · refine (alike_of_within (Usage.ensureSnapshot_within _)).bind_eq fun _ => ?_
    exact alike_pure rfl
  · exact alike_pure rfl

theorem fallback_alike (org : Organization) (subscriptionId : String) :
    Alike Eq (fallback org subscriptionId) (fallback org subscriptionId) := by
  unfold fallback
  dsimp only
  split
  · exact alike_pure rfl
  · refine (alike_store _).bind_eq fun plan? => (alike_orFail _ _).bind_eq fun plan => ?_
    split
    · exact alike_pure rfl
    · refine (alike_of_within (within_now trivial)).bind_eq fun now => ?_
      exact (alike_store _).bind_eq fun _ => alike_pure rfl

theorem applySubscription_alike (e : SubscriptionEvent) :
    Alike (fun a b => a.outcome = b.outcome) (applySubscription e) (applySubscription e) := by
  unfold applySubscription
  refine (alike_of_within (Usage.loadOrganization_within e.address)).bind_eq fun org => ?_
  cases effectOf e.status with
  | live => exact applyLive_alike org e
  | ended => exact (fallback_alike org e.subscriptionId).bind_eq fun outcome => alike_pure rfl
  | nothing => exact alike_pure rfl

theorem applyInvoice_alike (e : InvoiceEvent) : Alike Eq (applyInvoice e) (applyInvoice e) := by
  unfold applyInvoice
  refine (alike_of_within (Usage.loadOrganization_within e.address)).bind_eq fun org => ?_
  split
  · exact alike_pure rfl
  · exact (alike_store _).bind_eq fun _ => alike_pure rfl

end Reconcile

/-- The work of an event of an organization does the same, follow-up work apart, while it is
answered the same. -/
theorem Delivery.work_alike (e : TenantEvent) :
    Action.Alike (fun _ _ => True) (work e.toEvent) (work e.toEvent) := by
  have tenant := e.tenant
  unfold work
  split
  · exact (Reconcile.applySubscription_alike _).bind fun _ _ _ => Action.alike_pure trivial
  · exact (Reconcile.applyInvoice_alike _).bind fun _ _ _ => Action.alike_pure trivial
  · rename_i hk
    rw [hk] at tenant
    cases tenant
  · rename_i hk
    exact absurd hk e.kind_ne

theorem Delivery.answerTo_congr {a b : Except Failure (Option CustomerBackfill)}
    (h : SameResult (fun _ _ => True) a b) : answerTo a = answerTo b := by
  cases h <;> rfl

/-! ## Worlds that look the same -/

/-- A call that leaves everything that the work of an event sees. -/
def Call.IsAside : Call → Prop
  | .freshId => False
  | .store _ => False
  | _ => True

theorem Call.IsClosing.isAside {id : String} (q : Call) (h : q.IsClosing id) : q.IsAside := by
  cases q <;> trivial

namespace World

/-- A world in which no call to anybody fails. -/
structure Smooth (w : World) : Prop extends Calm w where
  provider : w.provider.outages = .none

/-- Two worlds that look the same to the work of an event. -/
structure Seen (v w : World) : Prop where
  store : w.desk.store = v.desk.store
  now : w.now = v.now
  nextId : w.nextId = v.nextId
  catalog : w.provider.catalog = v.provider.catalog
  customers : ∀ id, (w.provider.customers.get? id).map Customer.face =
    (v.provider.customers.get? id).map Customer.face

variable {u v w : World}

theorem Seen.refl (w : World) : w.Seen w := ⟨rfl, rfl, rfl, rfl, fun _ => rfl⟩

theorem Seen.symm (h : v.Seen w) : w.Seen v :=
  ⟨h.store.symm, h.now.symm, h.nextId.symm, h.catalog.symm, fun id => (h.customers id).symm⟩

theorem Seen.trans (h : u.Seen v) (h' : v.Seen w) : u.Seen w :=
  ⟨h'.store.trans h.store, h'.now.trans h.now, h'.nextId.trans h.nextId,
    h'.catalog.trans h.catalog, fun id => (h'.customers id).trans (h.customers id)⟩

/-- What a provider without failures does with a call. -/
theorem Smooth.answer_provider (h : w.Smooth) (c : ProviderCall) :
    w.provider.answer c = (w.provider.logged c).reply c ∧
      (w.provider.logged c).outages = .none := Provider.answer_of_calm h.provider c

theorem Smooth.answer (h : w.Smooth) (q : Call) : (w.answer q).2.Smooth := by
  refine ⟨h.toCalm.answer q, ?_⟩
  cases q with
  | provider c =>
    obtain ⟨hanswer, hcalm⟩ := h.answer_provider c
    have hsame : (w.provider.answer c).2.outages = .none := by
      rw [hanswer]
      cases c <;> simp only [Provider.reply] <;> split <;> exact hcalm
    exact hsame
  | store c =>
    rw [answer_store h.pool]
    exact h.provider
  | ledger c =>
    rw [answer_ledger h.pool]
    exact h.provider
  | _ => exact h.provider

/-- New metadata leave the face of a customer. -/
theorem seen_updateMetadata (w : World) (id : String) (metadata : Table String String)
    (other : String) :
    (((w.provider.logged (.updateMetadata id metadata)).reply
      (.updateMetadata id metadata)).2.customers.get? other).map Customer.face =
      (w.provider.customers.get? other).map Customer.face := by
  have hsame : (w.provider.logged (.updateMetadata id metadata)).customers =
      w.provider.customers := rfl
  simp only [Provider.reply, hsame]
  cases hc : w.provider.customers.get? id with
  | none => rfl
  | some c =>
    simp only [Table.get?_insert]
    split
    · rename_i hid
      rw [hid, hc]
      rfl
    · rfl

/-- Being asked something, the provider makes a note and changes nothing else. -/
theorem Smooth.answer_lookup (h : w.Smooth) {c : ProviderCall}
    (hc : Call.IsReconciling (.provider c)) :
    w.answer (.provider c) =
      (((w.provider.logged c).reply c).1, { w with provider := w.provider.logged c }) := by
  have hanswer : w.answer (.provider c) =
      ((w.provider.answer c).1, { w with provider := (w.provider.answer c).2 }) := rfl
  rw [hanswer, (h.answer_provider c).1, Provider.reply_lookup _ hc]

theorem Smooth.seen_lookup (h : w.Smooth) {c : ProviderCall}
    (hc : Call.IsReconciling (.provider c)) : w.Seen (w.answer (.provider c)).2 := by
  rw [h.answer_lookup hc]
  exact ⟨rfl, rfl, rfl, rfl, fun _ => rfl⟩

/-- A call aside changes nothing that the work of an event sees. -/
theorem Smooth.seen_answer (h : w.Smooth) {q : Call} (hq : q.IsAside) : w.Seen (w.answer q).2 := by
  cases q with
  | provider c =>
    cases c with
    | updateMetadata id metadata =>
      have hanswer := (h.answer_provider (.updateMetadata id metadata)).1
      have hworld : (w.answer (.provider (.updateMetadata id metadata))).2 =
          { w with provider := ((w.provider.logged (.updateMetadata id metadata)).reply
            (.updateMetadata id metadata)).2 } := by
        rw [← hanswer]
        rfl
      rw [hworld]
      refine ⟨rfl, rfl, rfl, ?_, seen_updateMetadata w id metadata⟩
      simp only [Provider.reply]
      split <;> rfl
    | customer id => exact h.seen_lookup trivial
    | product id => exact h.seen_lookup trivial
    | prices id => exact h.seen_lookup trivial
  | ledger c =>
    rw [answer_ledger h.pool]
    exact ⟨rfl, rfl, rfl, rfl, fun _ => rfl⟩
  | freshId => cases hq
  | store c => cases hq
  | _ => exact ⟨rfl, rfl, rfl, rfl, fun _ => rfl⟩

/-- The provider says the same in worlds that look the same. -/
theorem Seen.reply (h : v.Seen w) {c : ProviderCall} (hc : Call.IsReconciling (.provider c)) :
    Call.SameAnswer (.provider c) ((v.provider.logged c).reply c).1
      ((w.provider.logged c).reply c).1 := by
  have face (p : Provider) (id : String) : (p.reply (.customer id)).1.map Customer.face =
      match (p.customers.get? id).map Customer.face with
      | some x => .ok x
      | none => .error (Provider.noCustomer id) := by
    simp only [Provider.reply]
    cases p.customers.get? id <;> rfl
  cases c with
  | customer id =>
    have hv : (v.provider.logged (.customer id)).customers = v.provider.customers := rfl
    have hw : (w.provider.logged (.customer id)).customers = w.provider.customers := rfl
    simp only [Call.SameAnswer, face, hv, hw, h.customers]
  | product id =>
    simp only [Call.SameAnswer, Provider.reply, Provider.logged, h.catalog]
    cases v.provider.catalog.get? id <;> rfl
  | prices id =>
    simp only [Call.SameAnswer, Provider.reply, Provider.logged, h.catalog]
    cases v.provider.catalog.get? id <;> rfl
  | updateMetadata => cases hc

/-- Worlds that look the same answer a call of the work of an event the same, and still look
the same. -/
theorem Seen.answer (h : v.Seen w) (hv : v.Smooth) (hw : w.Smooth) {q : Call}
    (hq : q.IsReconciling) :
    q.SameAnswer (v.answer q).1 (w.answer q).1 ∧ (v.answer q).2.Seen (w.answer q).2 := by
  cases q with
  | now => exact ⟨h.now.symm, h⟩
  | freshId =>
    refine ⟨?_, h.store, h.now, ?_, h.catalog, h.customers⟩
    · simp only [World.answer, Call.SameAnswer, h.nextId]
    · simp only [World.answer, h.nextId]
  | store c =>
    have hdesk : w.desk = v.desk := by
      calc w.desk = ⟨w.desk.store, w.desk.outages⟩ := rfl
        _ = ⟨v.desk.store, v.desk.outages⟩ := by rw [h.store, hv.store, hw.store]
        _ = v.desk := rfl
    rw [answer_store hv.pool, answer_store hw.pool, hdesk]
    exact ⟨rfl, rfl, h.now, h.nextId, h.catalog, h.customers⟩
  | provider c =>
    rw [hv.answer_lookup hq, hw.answer_lookup hq]
    exact ⟨h.reply hq, h.store, h.now, h.nextId, h.catalog, h.customers⟩
  | _ => cases hq

/-- Programs that reconcile in step end the same in worlds that look the same. -/
theorem Seen.runProc {α : Type} {R : α → α → Prop} {p p' : Proc α} (alike : p.Alike R p')
    (h : v.Seen w) (hv : v.Smooth) (hw : w.Smooth) :
    R (v.runProc p).1 (w.runProc p').1 ∧ (v.runProc p).2.Seen (w.runProc p').2 := by
  induction alike generalizing v w with
  | done same => exact ⟨same, h⟩
  | @call q _ _ reconciling _ ih =>
    obtain ⟨same, seen⟩ := h.answer hv hw reconciling
    exact ih _ _ same seen (hv.answer q) (hw.answer q)

theorem Smooth.runProc {α : Type} (h : w.Smooth) (p : Proc α) : (w.runProc p).2.Smooth := by
  induction p generalizing w with
  | done a => exact h
  | call q next ih => exact ih _ (h.answer q)

/-- A program of calls aside leaves a world that looks the same. -/
theorem Smooth.seen_runProc {α : Type} (h : w.Smooth) {p : Proc α} (hp : p.Within Call.IsAside) :
    w.Seen (w.runProc p).2 := by
  induction p generalizing w with
  | done a => exact .refl w
  | call q next ih => exact (h.seen_answer hp.1).trans (ih _ (h.answer q) (hp.2 _))

theorem result_of_ends {α : Type} {r : α} {p : Proc α} (h : p.Ends r) (w : World) :
    (w.runProc p).1 = r := by
  induction p generalizing w with
  | done a => exact h
  | call q next ih => exact ih _ (h _) _

/-- The ledger says of an event that is new that it is, and that is all. -/
theorem Smooth.answer_isMarked (h : w.Smooth) {id : String} (new : w.hasMark id = false) :
    w.answer (.ledger (.isMarked id)) = (.ok false, w) := by
  unfold hasMark at new
  rw [answer_ledger h.pool, h.ledger.answer_isMarked, new]

/-- A delivery that holds the lock comes to the work of its event. -/
theorem Smooth.runProc_atLock (h : w.Smooth) {e : TenantEvent} (new : w.hasMark e.id = false)
    (ticket : Nat) :
    (w.runProc (Delivery.atLock e ticket)).1 =
        Delivery.answerTo (w.run (Delivery.work e.toEvent)).1 ∧
      (w.run (Delivery.work e.toEvent)).2.Seen (w.runProc (Delivery.atLock e ticket)).2 := by
  have begun : w.runProc (Delivery.atLock e ticket) =
      w.runProc (Delivery.atWork e.id ticket (Delivery.work e.toEvent).run) := by
    unfold Delivery.atLock
    rw [World.runProc, h.answer_isMarked new]
  have worked : (w.run (Delivery.work e.toEvent)).2.Smooth := h.runProc _
  rw [begun]
  unfold Delivery.atWork
  rw [runProc_bind]
  unfold World.run at worked ⊢
  generalize w.runProc (Delivery.work e.toEvent).run = x at worked ⊢
  obtain ⟨done, u⟩ := x
  have closing : (Proc.call (.release ticket) fun _ => Delivery.finish e.id done).Within
      Call.IsAside :=
    ⟨trivial, fun _ => (Delivery.finish_within e.id done).mono Call.IsClosing.isAside⟩
  have ends : (Proc.call (.release ticket) fun _ => Delivery.finish e.id done).Ends
      (Delivery.answerTo done) := fun _ => Delivery.finish_ends e.id done
  exact ⟨result_of_ends ends u, worked.seen_runProc closing⟩

/-- A delivery of an event that is new comes to the work of the event: it ends as the work
does, in a world that looks as the work leaves it. -/
theorem Smooth.run_handle (h : w.Smooth) {e : TenantEvent} (new : w.hasMark e.id = false) :
    (w.run (Delivery.handle e.toEvent)).1 =
        Delivery.answerTo (w.run (Delivery.work e.toEvent)).1 ∧
      (w.run (Delivery.work e.toEvent)).2.Seen (w.run (Delivery.handle e.toEvent)).2 := by
  have joined := h.answer (.join e.address)
  have seen : w.Seen ((w.answer (.join e.address)).2.answer (.acquire w.nextTicket)).2 :=
    (h.seen_answer (q := .join e.address) trivial).trans
      (joined.seen_answer (q := .acquire w.nextTicket) trivial)
  have entered : w.run (Delivery.handle e.toEvent) =
      ((w.answer (.join e.address)).2.answer (.acquire w.nextTicket)).2.runProc
        (Delivery.atLock e w.nextTicket) := by
    unfold World.run
    rw [e.handle_run, Delivery.Stage.program, World.runProc, h.answer_isMarked new]
    rfl
  have held := joined.answer (.acquire w.nextTicket)
  have still : ((w.answer (.join e.address)).2.answer (.acquire w.nextTicket)).2.hasMark e.id =
      false := new
  rw [entered]
  generalize ((w.answer (.join e.address)).2.answer (.acquire w.nextTicket)).2 = u
    at seen held still ⊢
  obtain ⟨ends, leaves⟩ := held.runProc_atLock still w.nextTicket
  obtain ⟨same, alike⟩ := seen.runProc (Delivery.work_alike e) h held
  exact ⟨ends.trans (Delivery.answerTo_congr same).symm, alike.trans leaves⟩

end World

end TenantBilling
