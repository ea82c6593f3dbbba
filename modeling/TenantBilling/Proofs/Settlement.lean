import TenantBilling.Proofs.Scene
import TenantBilling.Proofs.StoreInvariant
import TenantBilling.Reconcile

/-! What reconciliation comes to. Each family of events has a function on stores that says
what applying the event does when every call is answered; the program of that family does
exactly this, or a call to the store failed. A failed call leaves nothing behind, with one
exception: the subscription of an annual plan is written before its period is opened. -/

namespace TenantBilling

open Calendar

namespace Store

/-- Replaces the subscription of a stored organization. -/
def putSubscription (s : Store) (org : Organization) (subscription : Subscription) : Store :=
  { s with
    organizations := s.organizations.insert org.address { org with subscription }
    subscriptionWrites := s.subscriptionWrites + 1 }

/-- Gives a stored organization a subscription, unless it has one that says the same. -/
def assign (s : Store) (org : Organization) (subscription : Subscription) : Store :=
  if subscription.agrees org.subscription then s else s.putSubscription org subscription

/-- The snapshot that opens a period of an organization. -/
def baseline (org : Organization) (window : Window) (now : DateTime) (id : Uuid) : Snapshot where
  id
  address := org.address
  periodStart := window.start
  periodEnd := window.stop
  period := org.subscription.period
  baseline := org.counters
  createdAt := now

/-- Opens the current period of an organization, when it has one that is not open yet. -/
def withBaseline (s : Store) (org : Organization) (now : DateTime) (id : Uuid) : Store :=
  match currentPeriod? org.subscription now with
  | none => s
  | some window => (s.openSnapshot (baseline org window now id)).1

theorem setSubscription_eq {s : Store} {org : Organization}
    (h : s.organization? org.address = some org) (subscription : Subscription) :
    s.setSubscription org.address subscription = .ok (s.putSubscription org subscription) := by
  unfold organization? at h
  simp only [setSubscription, h, putSubscription]

theorem Sound.putSubscription {s : Store} (hs : s.Sound) {org : Organization}
    (subscription : Subscription) : (s.putSubscription org subscription).Sound := by
  refine ⟨fun a o ho => ?_, hs.plan, hs.planId, hs.lastPlanId, hs.snapshot⟩
  simp only [Store.putSubscription, Table.get?_insert] at ho
  split at ho
  · cases ho
    symm
    assumption
  · exact hs.organization a o ho

end Store

namespace Reconcile

section Live
variable {e : SubscriptionEvent} {plan : Plan} {previous : Subscription}
  {seen customer : Option Customer}

/-- Without a customer to ask, the record stays. -/
theorem live_none :
    liveSubscription e plan (liveSubscription e plan previous seen) none =
      liveSubscription e plan previous seen := rfl

/-- With the customer, the record is the one that would have been made at once. -/
theorem live_over (hseen : seen = none ∨ seen = customer) :
    liveSubscription e plan (liveSubscription e plan previous seen) customer =
      liveSubscription e plan previous customer := by
  rcases hseen with rfl | rfl
  · rfl
  · simp only [liveSubscription]
    cases seen.bind (·.email) <;> rfl

/-- A record that says what was stored before says so without the customer, too. -/
theorem agrees_of_live
    (h : (liveSubscription e plan previous customer).agrees previous = true) :
    (liveSubscription e plan previous none).agrees previous = true := by
  simp only [Subscription.agrees, liveSubscription, Bool.and_eq_true, beq_iff_eq] at h ⊢
  exact ⟨h.1, rfl⟩

/-- Two records of one event that say the same are the same. -/
theorem live_eq_of_agrees
    (h : (liveSubscription e plan previous customer).agrees
      (liveSubscription e plan previous seen) = true) :
    liveSubscription e plan previous customer = liveSubscription e plan previous seen := by
  simp only [Subscription.agrees, Bool.and_eq_true, beq_iff_eq] at h
  have hemail := h.2
  simp only [liveSubscription] at hemail ⊢
  rw [hemail]

end Live

/-- The store with an organization on a live subscription, and the period of an annual plan
open. -/
def liveStore (s : Store) (now : DateTime) (id : Uuid) (org : Organization) (e : SubscriptionEvent)
    (subscription : Subscription) : Store :=
  if e.period = .annual then
    (s.assign org subscription).withBaseline { org with subscription } now id
  else s.assign org subscription

/-- An active subscription, for an organization that is stored. The customer is what the
event or the provider says it is. -/
def settleLive (s : Store) (now : DateTime) (customer : Option Customer) (id : Uuid)
    (org : Organization) (e : SubscriptionEvent) : Except BillingError (Reconciled × Store) :=
  match s.planOfProduct? e.productId with
  | none => .error (.planNotFound e.productId)
  | some plan =>
    let subscription := liveSubscription e plan org.subscription customer
    let outcome := if subscription.agrees org.subscription then .unchanged else .updated
    .ok (⟨outcome, backfill e customer⟩, liveStore s now id org e subscription)

/-- The end of a subscription, for an organization that is stored. -/
def settleEnded (s : Store) (now : DateTime) (org : Organization) (subscriptionId : String) :
    Except BillingError (Outcome × Store) :=
  if isStale org.subscription subscriptionId then .ok (.unchanged, s)
  else
    match s.defaultPlan? with
    | none => .error .defaultPlanMissing
    | some plan =>
      if !org.subscription.hasProvider && org.subscription.planId == plan.id then
        .ok (.unchanged, s)
      else
        .ok (.fellBackToDefault,
          s.putSubscription org (defaultSubscription plan now org.subscription))

def settleSubscription (s : Store) (now : DateTime) (customer : Option Customer) (id : Uuid)
    (e : SubscriptionEvent) : Except BillingError (Reconciled × Store) :=
  match s.organization? e.address with
  | none => .error (.organizationNotFound e.address)
  | some org =>
    match effectOf e.status with
    | .live => settleLive s now customer id org e
    | .ended => (settleEnded s now org e.subscriptionId).map fun p => (⟨p.1, none⟩, p.2)
    | .nothing => .ok (⟨.unchanged, none⟩, s)

def settleInvoice (s : Store) (e : InvoiceEvent) : Except BillingError (Outcome × Store) :=
  match s.organization? e.address with
  | none => .error (.organizationNotFound e.address)
  | some org =>
    if sameMoment org.subscription.lastPaymentDate (some e.effectiveAt) then .ok (.unchanged, s)
    else
      .ok (.updated,
        s.putSubscription org { org.subscription with lastPaymentDate := some e.effectiveAt })

/-- A product that changed; the offer is what the provider says of it. -/
def settleProduct (s : Store) (offer : Except BillingError (Product × List Price))
    (e : ProductEvent) : Except BillingError (Outcome × Store) :=
  match s.planOfProduct? e.productId with
  | none => .ok (.unchanged, s)
  | some plan => do
    let (product, prices) ← offer
    let refreshed ← planOfProduct plan product prices
    if refreshed = plan then .ok (.unchanged, s) else .ok (.updated, (s.setPlan refreshed).1)

end Reconcile

/-- What the provider says of a customer: nothing when it gives no answer. -/
def Provider.resolve (p : Provider) (c : CustomerRef) : Option Customer :=
  match c.metadata with
  | some metadata => some ⟨c.id, c.email, metadata⟩
  | none => (p.answer (.customer c.id)).1.toOption

/-- What the provider says of a product and its prices, asked for one after the other. -/
def Provider.offer (p : Provider) (productId : String) :
    Except BillingError (Product × List Price) := do
  let product ← (p.answer (.product productId)).1
  let prices ← ((p.answer (.product productId)).2.answer (.prices productId)).1
  pure (product, prices)

/-- The end of a settled event: its result with the store it leaves, or an error with the
store as it was. -/
def settled {α : Type} (x : Except BillingError (α × Store)) (s : Store) :
    Except Failure α × Store :=
  match x with
  | .ok (a, s') => (.ok a, s')
  | .error e => (.error (.error e), s)

theorem settled_map_ok {α β : Type} {x : Except BillingError (α × Store)} {s s' : Store} {a : α}
    (f : α → β) (h : (.ok a, s') = settled x s) :
    (.ok (f a), s') = settled (x.map fun p => (f p.1, p.2)) s := by
  cases x with
  | ok p => cases h; rfl
  | error e => cases h

theorem settled_map_error {α β : Type} {x : Except BillingError (α × Store)} {s s' : Store}
    {e : Failure} (f : α → β) (h : (.error e, s') = settled x s) :
    (.error e, s') = settled (x.map fun p => (f p.1, p.2)) s := by
  cases x with
  | ok p => cases h
  | error e => cases h; rfl

/-- A call to the store failed, and the store is as it was. -/
def Interrupted {α : Type} (mayFail : Prop) (s : Store) (r : Except Failure α) (t : Store) : Prop :=
  mayFail ∧ (∃ op, r = .error (.storeDown op)) ∧ t = s

/-- The subscription of an annual plan was written, and then the store failed to open its
period. What was written is the whole record that the event stands for. -/
def HalfApplied (mayFail : Prop) (s : Scene) (e : SubscriptionEvent) (f : Failure) (t : Store) :
    Prop :=
  mayFail ∧ Reconcile.effectOf e.status = .live ∧ e.period = .annual ∧
    (f = .storeDown .snapshot ∨ f = .storeDown .openSnapshot) ∧
    ∃ org plan, s.store.organization? e.address = some org ∧
      s.store.planOfProduct? e.productId = some plan ∧
      t = s.store.assign org
        (Reconcile.liveSubscription e plan org.subscription (s.provider.resolve e.customer))

namespace Usage
variable {α : Type} {mayFail : Prop} {s t : Scene}

theorem gives_bind_loadOrganization {address : String} {f : Organization → Action α}
    {r : Except Failure α} (h : (loadOrganization address >>= f).Gives mayFail s r t) :
    (∃ org, s.store.organization? address = some org ∧ (f org).Gives mayFail s r t) ∨
      (s.store.organization? address = none ∧
        r = .error (.error (.organizationNotFound address)) ∧ t = s) ∨
      (mayFail ∧ r = .error (.storeDown .organization) ∧ t = s) := by
  unfold loadOrganization at h
  rw [bind_assoc] at h
  rcases Action.gives_bind_read rfl h with h | h
  · rcases Action.gives_bind_orFail.mp h with h | h
    · exact Or.inl h
    · exact Or.inr (Or.inl h)
  · exact Or.inr (Or.inr h)

theorem gives_openPeriod {org : Organization} {window : Window} {r : Except Failure Snapshot}
    (h : (openPeriod org window).Gives mayFail s r t) :
    (∃ id, r = .ok (s.store.openSnapshot (Store.baseline org window s.now id)).2 ∧
      t = { s with store := (s.store.openSnapshot (Store.baseline org window s.now id)).1 }) ∨
      (mayFail ∧ r = .error (.storeDown .openSnapshot) ∧ t = s) := by
  unfold openPeriod at h
  obtain ⟨id, h⟩ := Action.gives_bind_freshId.mp h
  rcases Action.gives_store.mp (Action.gives_bind_now.mp h) with ⟨rfl, rfl⟩ | h
  · exact Or.inl ⟨id, rfl, rfl⟩
  · exact Or.inr h

theorem gives_baselineOf {org : Organization} {window : Window} {r : Except Failure Snapshot}
    (h : (baselineOf org window).Gives mayFail s r t) :
    (∃ id, r = .ok (s.store.openSnapshot (Store.baseline org window s.now id)).2 ∧
      t = { s with store := (s.store.openSnapshot (Store.baseline org window s.now id)).1 }) ∨
      (mayFail ∧ (r = .error (.storeDown .snapshot) ∨ r = .error (.storeDown .openSnapshot)) ∧
        t = s) := by
  unfold baselineOf at h
  rcases Action.gives_bind_read rfl h with h | ⟨hf, hr, ht⟩
  · cases hk : s.store.snapshot? org.address window.start with
    | none =>
      rw [hk] at h
      rcases gives_openPeriod h with h | ⟨hf, hr, ht⟩
      · exact Or.inl h
      · exact Or.inr ⟨hf, Or.inr hr, ht⟩
    | some stored =>
      rw [hk] at h
      obtain ⟨rfl, rfl⟩ := Action.gives_pure.mp h
      have hkey : t.store.snapshots.get? (Store.baseline org window t.now default).key =
        some stored := hk
      refine Or.inl ⟨default, ?_, ?_⟩
      · simp only [Store.openSnapshot, hkey]
      · simp only [Store.openSnapshot, hkey]
  · exact Or.inr ⟨hf, Or.inl hr, ht⟩

/-- The current period is opened, or one of the two calls for it fails. -/
theorem gives_ensureSnapshot {org : Organization} {r : Except Failure (Option Snapshot)}
    (h : (ensureSnapshot org).Gives mayFail s r t) :
    (∃ x id, r = .ok x ∧ t = { s with store := s.store.withBaseline org s.now id }) ∨
      (mayFail ∧ (r = .error (.storeDown .snapshot) ∨ r = .error (.storeDown .openSnapshot)) ∧
        t = s) := by
  unfold ensureSnapshot at h
  have h := Action.gives_bind_now.mp h
  unfold Store.withBaseline
  cases hw : currentPeriod? org.subscription s.now with
  | none =>
    rw [hw] at h
    obtain ⟨rfl, rfl⟩ := Action.gives_pure.mp h
    exact Or.inl ⟨_, default, rfl, rfl⟩
  | some window =>
    rw [hw] at h
    obtain ⟨q, hq, rfl⟩ := Action.gives_map.mp h
    rcases gives_baselineOf hq with ⟨id, rfl, ht⟩ | ⟨hf, rfl | rfl, ht⟩
    · exact Or.inl ⟨_, id, rfl, ht⟩
    · exact Or.inr ⟨hf, Or.inl rfl, ht⟩
    · exact Or.inr ⟨hf, Or.inr rfl, ht⟩

end Usage

namespace Reconcile
variable {α : Type} {mayFail : Prop} {s t : Scene}

theorem gives_bind_resolveCustomer {c : CustomerRef} {f : Option Customer → Action α}
    {r : Except Failure α} (h : (resolveCustomer c >>= f).Gives mayFail s r t) :
    ∃ p, (f (s.provider.resolve c)).Gives mayFail { s with provider := p } r t := by
  unfold resolveCustomer at h
  unfold Provider.resolve
  cases hm : c.metadata with
  | some metadata =>
    rw [hm] at h
    exact ⟨s.provider, h⟩
  | none =>
    rw [hm] at h
    obtain ⟨_, _, ⟨rfl, rfl⟩, h⟩ := h
    exact ⟨_, h⟩

theorem gives_bind_setSubscription {org : Organization} {subscription : Subscription}
    {f : Unit → Action α} {r : Except Failure α}
    (h : (Action.store (.setSubscription org.address subscription) >>= f).Gives mayFail s r t)
    (horg : s.store.organization? org.address = some org) :
    (f ()).Gives mayFail { s with store := s.store.putSubscription org subscription } r t ∨
      (mayFail ∧ r = .error (.storeDown .setSubscription) ∧ t = s) := by
  have hset : s.store.answer (.setSubscription org.address subscription) =
      (.ok (), s.store.putSubscription org subscription) := by
    simp only [Store.answer, Store.setSubscription_eq horg]
  exact Action.gives_bind_store hset h

theorem gives_bind_writeSubscription {org : Organization} {subscription : Subscription}
    {f : Outcome → Action α} {r : Except Failure α}
    (h : (writeSubscription org subscription >>= f).Gives mayFail s r t)
    (horg : s.store.organization? org.address = some org) :
    (f (if subscription.agrees org.subscription then .unchanged else .updated)).Gives mayFail
        { s with store := s.store.assign org subscription } r t ∨
      (mayFail ∧ r = .error (.storeDown .setSubscription) ∧ t = s) := by
  unfold writeSubscription at h
  unfold Store.assign
  split at h
  · rename_i ha
    rw [if_pos ha, if_pos ha]
    exact Or.inl h
  · rename_i ha
    rw [if_neg ha, if_neg ha]
    rw [bind_assoc] at h
    exact gives_bind_setSubscription h horg

/-- An active subscription is settled, or a call to the store failed: without effect up to the
write, and after it in opening the period of an annual plan. -/
theorem gives_applyLive {org : Organization} {e : SubscriptionEvent}
    {r : Except Failure Reconciled} (horg : s.store.organization? org.address = some org)
    (h : (applyLive org e).Gives mayFail s r t) :
    (∃ id, (r, t.store) =
      settled (settleLive s.store s.now (s.provider.resolve e.customer) id org e) s.store) ∨
      Interrupted mayFail s.store r t.store ∨
      (mayFail ∧ e.period = .annual ∧
        (r = .error (.storeDown .snapshot) ∨ r = .error (.storeDown .openSnapshot)) ∧
        ∃ plan, s.store.planOfProduct? e.productId = some plan ∧ t.store = s.store.assign org
          (liveSubscription e plan org.subscription (s.provider.resolve e.customer))) := by
  unfold applyLive at h
  rcases Action.gives_bind_read rfl h with h | ⟨hf, rfl, rfl⟩
  · rcases Action.gives_bind_orFail.mp h with ⟨plan, hplan, h⟩ | ⟨hplan, rfl, rfl⟩
    · obtain ⟨p, h⟩ := gives_bind_resolveCustomer h
      dsimp only at h
      rcases gives_bind_writeSubscription h horg with h | ⟨hf, rfl, rfl⟩
      · -- the write is done, and only the period is left to open
        by_cases hp : e.period = .annual
        · rw [if_pos hp, Action.gives_bind] at h
          rcases h with ⟨_, u, hx, h⟩ | ⟨_, hx, rfl⟩
          · rcases Usage.gives_ensureSnapshot hx with ⟨_, id, -, rfl⟩ | ⟨_, hr | hr, _⟩
            · obtain ⟨rfl, rfl⟩ := Action.gives_pure.mp h
              exact Or.inl ⟨id, by simp [settleLive, liveStore, hplan, settled, hp]⟩
            · cases hr
            · cases hr
          · rcases Usage.gives_ensureSnapshot hx with ⟨_, _, hr, -⟩ | ⟨hf, hr, rfl⟩
            · cases hr
            · refine Or.inr (Or.inr ⟨hf, hp, ?_, plan, hplan, rfl⟩)
              exact hr.imp (fun hr => by cases hr; rfl) (fun hr => by cases hr; rfl)
        · rw [if_neg hp] at h
          obtain ⟨rfl, rfl⟩ := Action.gives_pure.mp h
          exact Or.inl ⟨default, by simp [settleLive, liveStore, hplan, settled, hp]⟩
      · exact Or.inr (Or.inl ⟨hf, ⟨_, rfl⟩, rfl⟩)
    · exact Or.inl ⟨default, by simp [settleLive, hplan, settled]⟩
  · exact Or.inr (Or.inl ⟨hf, ⟨_, rfl⟩, rfl⟩)

theorem gives_fallback {org : Organization} {subscriptionId : String}
    {r : Except Failure Outcome} (horg : s.store.organization? org.address = some org)
    (h : (fallback org subscriptionId).Gives mayFail s r t) :
    (r, t.store) = settled (settleEnded s.store s.now org subscriptionId) s.store ∨
      Interrupted mayFail s.store r t.store := by
  unfold fallback at h
  unfold settleEnded
  dsimp only at h
  split at h
  · rename_i hstale
    obtain ⟨rfl, rfl⟩ := Action.gives_pure.mp h
    rw [if_pos hstale]
    exact Or.inl rfl
  · rename_i hstale
    rw [if_neg hstale]
    rcases Action.gives_bind_read rfl h with h | ⟨hf, rfl, rfl⟩
    · rcases Action.gives_bind_orFail.mp h with ⟨plan, hplan, h⟩ | ⟨hplan, rfl, rfl⟩
      · simp only [hplan]
        split at h
        · rename_i hdone
          obtain ⟨rfl, rfl⟩ := Action.gives_pure.mp h
          rw [if_pos hdone]
          exact Or.inl rfl
        · rename_i hdone
          rw [if_neg hdone]
          rcases gives_bind_setSubscription (Action.gives_bind_now.mp h) horg with
            h | ⟨hf, rfl, rfl⟩
          · obtain ⟨rfl, rfl⟩ := Action.gives_pure.mp h
            exact Or.inl rfl
          · exact Or.inr ⟨hf, ⟨_, rfl⟩, rfl⟩
      · simp only [hplan]
        exact Or.inl rfl
    · exact Or.inr ⟨hf, ⟨_, rfl⟩, rfl⟩

/-- A subscription event is settled, or a call to the store failed without effect, or after
the write of an annual plan. -/
theorem gives_applySubscription {e : SubscriptionEvent} {r : Except Failure Reconciled}
    (hs : s.store.Sound) (h : (applySubscription e).Gives mayFail s r t) :
    (∃ id, (r, t.store) =
      settled (settleSubscription s.store s.now (s.provider.resolve e.customer) id e) s.store) ∨
      Interrupted mayFail s.store r t.store ∨
      ∃ f, r = .error f ∧ HalfApplied mayFail s e f t.store := by
  unfold applySubscription at h
  rcases Usage.gives_bind_loadOrganization h with ⟨org, ho, h⟩ | ⟨ho, rfl, rfl⟩ | ⟨hf, rfl, rfl⟩
  · have horg : s.store.organization? org.address = some org := by
      rw [hs.organization e.address org ho]
      exact ho
    cases he : effectOf e.status with
    | live =>
      rw [he] at h
      rcases gives_applyLive horg h with ⟨id, h⟩ | h | ⟨hf, hp, hr, plan, hplan, ht⟩
      · exact Or.inl ⟨id, by simp only [settleSubscription, ho, he, h]⟩
      · exact Or.inr (Or.inl h)
      · refine Or.inr (Or.inr ?_)
        rcases hr with rfl | rfl
        · exact ⟨_, rfl, hf, he, hp, Or.inl rfl, org, plan, ho, hplan, ht⟩
        · exact ⟨_, rfl, hf, he, hp, Or.inr rfl, org, plan, ho, hplan, ht⟩
    | ended =>
      rw [he] at h
      have hx : (r, t.store) = settled ((settleEnded s.store s.now org e.subscriptionId).map
          fun p => (⟨p.1, none⟩, p.2)) s.store ∨ Interrupted mayFail s.store r t.store := by
        rw [Action.gives_bind] at h
        rcases h with ⟨o, u, hx, h⟩ | ⟨f, hx, rfl⟩
        · obtain ⟨rfl, rfl⟩ := Action.gives_pure.mp h
          rcases gives_fallback horg hx with hx | ⟨_, ⟨_, hr⟩, _⟩
          · exact Or.inl (settled_map_ok (fun o => (⟨o, none⟩ : Reconciled)) hx)
          · cases hr
        · rcases gives_fallback horg hx with hx | ⟨hf, ⟨op, hr⟩, ht⟩
          · exact Or.inl (settled_map_error (fun o => (⟨o, none⟩ : Reconciled)) hx)
          · cases hr
            exact Or.inr ⟨hf, ⟨op, rfl⟩, ht⟩
      rcases hx with hx | hx
      · exact Or.inl ⟨default, by simp only [settleSubscription, ho, he, hx]⟩
      · exact Or.inr (Or.inl hx)
    | nothing =>
      rw [he] at h
      obtain ⟨rfl, rfl⟩ := Action.gives_pure.mp h
      exact Or.inl ⟨default, by simp only [settleSubscription, ho, he, settled]⟩
  · exact Or.inl ⟨default, by simp only [settleSubscription, ho, settled]⟩
  · exact Or.inr (Or.inl ⟨hf, ⟨_, rfl⟩, rfl⟩)

theorem gives_applyInvoice {e : InvoiceEvent} {r : Except Failure Outcome} (hs : s.store.Sound)
    (h : (applyInvoice e).Gives mayFail s r t) :
    (r, t.store) = settled (settleInvoice s.store e) s.store ∨
      Interrupted mayFail s.store r t.store := by
  unfold applyInvoice at h
  unfold settleInvoice
  rcases Usage.gives_bind_loadOrganization h with ⟨org, ho, h⟩ | ⟨ho, rfl, rfl⟩ | ⟨hf, rfl, rfl⟩
  · have horg : s.store.organization? org.address = some org := by
      rw [hs.organization e.address org ho]
      exact ho
    simp only [ho]
    split at h
    · rename_i hsame
      obtain ⟨rfl, rfl⟩ := Action.gives_pure.mp h
      rw [if_pos hsame]
      exact Or.inl rfl
    · rename_i hsame
      rw [if_neg hsame]
      rcases gives_bind_setSubscription h horg with h | ⟨hf, rfl, rfl⟩
      · obtain ⟨rfl, rfl⟩ := Action.gives_pure.mp h
        exact Or.inl rfl
      · exact Or.inr ⟨hf, ⟨_, rfl⟩, rfl⟩
  · simp only [ho]
    exact Or.inl rfl
  · exact Or.inr ⟨hf, ⟨_, rfl⟩, rfl⟩

/-- A product event is settled with what the provider says of the product, or a call to the
store failed without effect. -/
theorem gives_applyProduct {e : ProductEvent} {r : Except Failure Outcome}
    (h : (applyProduct e).Gives mayFail s r t) :
    (r, t.store) = settled (settleProduct s.store (s.provider.offer e.productId) e) s.store ∨
      Interrupted mayFail s.store r t.store := by
  unfold applyProduct at h
  unfold settleProduct
  rcases Action.gives_bind_read rfl h with h | ⟨hf, rfl, rfl⟩
  · cases hplan : s.store.planOfProduct? e.productId with
    | none =>
      rw [hplan] at h
      obtain ⟨rfl, rfl⟩ := Action.gives_pure.mp h
      exact Or.inl rfl
    | some plan =>
      rw [hplan] at h
      dsimp only at h ⊢
      rcases Action.gives_bind_provider.mp h with ⟨product, hproduct, h⟩ | ⟨b, hb, rfl, rfl⟩
      · rcases Action.gives_bind_provider.mp h with ⟨prices, hprices, h⟩ | ⟨b, hb, rfl, rfl⟩
        · have hoffer : s.provider.offer e.productId = .ok (product, prices) := by
            simp [Provider.offer, hproduct, hprices, bind, Except.bind, pure, Except.pure]
          simp only [hoffer, bind, Except.bind]
          rcases Action.gives_bind_ofExcept.mp h with ⟨refreshed, hr, h⟩ | ⟨_, hr, rfl, rfl⟩
          · simp only [hr]
            split at h
            · rename_i hsame
              obtain ⟨rfl, rfl⟩ := Action.gives_pure.mp h
              rw [if_pos hsame]
              exact Or.inl rfl
            · rename_i hsame
              rw [if_neg hsame]
              rcases Action.gives_bind_store rfl h with h | ⟨hf, rfl, rfl⟩
              · obtain ⟨rfl, rfl⟩ := Action.gives_pure.mp h
                exact Or.inl rfl
              · exact Or.inr ⟨hf, ⟨_, rfl⟩, rfl⟩
          · simp only [hr]
            exact Or.inl rfl
        · have hoffer : s.provider.offer e.productId = .error b := by
            simp [Provider.offer, hproduct, hb, bind, Except.bind]
          rw [hoffer]
          exact Or.inl rfl
      · have hoffer : s.provider.offer e.productId = .error b := by
          simp [Provider.offer, hb, bind, Except.bind]
        rw [hoffer]
        exact Or.inl rfl
  · exact Or.inr ⟨hf, ⟨_, rfl⟩, rfl⟩

end Reconcile

end TenantBilling
