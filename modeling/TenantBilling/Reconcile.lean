import TenantBilling.Usage.Meter

/-! Reconciliation of events with what is stored. Every write replaces a whole record, so an
event that is applied again, or after it was half applied, ends in the same record. What has
to succeed comes first; the rest is left as follow-up work whose failures do not count. -/

namespace TenantBilling

/-- What reconciling an event did. -/
inductive Outcome where
  | updated
  | fellBackToDefault
  /-- The stored state was as it should be, or the event does not apply. -/
  | unchanged
deriving DecidableEq

/-- The metadata of a customer is to name its organization. -/
structure CustomerBackfill where
  customerId : String
  address : String
deriving DecidableEq

/-- What a subscription event did, and the follow-up work it leaves. -/
structure Reconciled where
  outcome : Outcome
  followUp : Option CustomerBackfill
deriving DecidableEq

namespace Reconcile

/-- The customer of an event: as the event has it, or as the provider does. None when the
provider gives no answer. -/
def resolveCustomer (c : CustomerRef) : Action (Option Customer) :=
  match c.metadata with
  | some metadata => pure (some ⟨c.id, c.email, metadata⟩)
  | none => ExceptT.lift (Proc.call (.provider (.customer c.id)) fun a => .done a.toOption)

/-- The record of a subscription that is live. -/
def liveSubscription (e : SubscriptionEvent) (plan : Plan) (previous : Subscription)
    (customer : Option Customer) : Subscription where
  planId := plan.id
  providerId := e.subscriptionId
  period := e.period
  startDate := some e.periodStart
  renewalDate := some e.periodEnd
  lastPaymentDate := previous.lastPaymentDate
  active := true
  email := (customer.bind (·.email)).getD previous.email

/-- The customer whose metadata does not name the organization of the event yet. -/
def backfill (e : SubscriptionEvent) (customer : Option Customer) : Option CustomerBackfill :=
  (customer.filter fun c => c.metadata.get? addressKey != some e.address).map fun c =>
    ⟨c.id, e.address⟩

/-- Writes a subscription unless the stored one already says the same. -/
def writeSubscription (org : Organization) (subscription : Subscription) : Action Outcome :=
  if subscription.agrees org.subscription then pure .unchanged
  else do
    Action.store (.setSubscription org.address subscription)
    pure .updated

def applyLive (org : Organization) (e : SubscriptionEvent) : Action Reconciled := do
  let plan ← Action.orFail (← Action.store (.planOfProduct e.productId)) (.planNotFound e.productId)
  let customer ← resolveCustomer e.customer
  let subscription := liveSubscription e plan org.subscription customer
  let outcome ← writeSubscription org subscription
  if e.period = .annual then
    let _ ← Usage.ensureSnapshot { org with subscription }
  pure ⟨outcome, backfill e customer⟩

/-- The record of an organization on the default plan. -/
def defaultSubscription (plan : Plan) (now : Calendar.DateTime) (previous : Subscription) :
    Subscription where
  planId := plan.id
  providerId := ""
  period := .monthly
  startDate := some now
  renewalDate := none
  lastPaymentDate := previous.lastPaymentDate
  active := true
  email := ""

/-- Whether a subscription is another one than the live one. -/
def isStale (current : Subscription) (subscriptionId : String) : Bool :=
  current.hasProvider && current.providerId != subscriptionId

theorem isStale_iff {current : Subscription} {subscriptionId : String} :
    isStale current subscriptionId = true ↔
      current.providerId ≠ "" ∧ current.providerId ≠ subscriptionId := by
  unfold isStale
  rw [Bool.and_eq_true, Subscription.hasProvider_iff, bne_iff_ne]

/-- Moves an organization whose subscription ended to the default plan. The end of another
subscription than the live one is ignored. -/
def fallback (org : Organization) (subscriptionId : String) : Action Outcome := do
  let current := org.subscription
  if isStale current subscriptionId then pure .unchanged
  else
    let plan ← Action.orFail (← Action.store .defaultPlan) .defaultPlanMissing
    if !current.hasProvider && current.planId == plan.id then pure .unchanged
    else
      let subscription := defaultSubscription plan (← Action.now) current
      Action.store (.setSubscription org.address subscription)
      pure .fellBackToDefault

/-- What an event of this status calls for. -/
inductive Effect where
  | live
  | ended
  | nothing
deriving DecidableEq

def effectOf : SubscriptionStatus → Effect
  | .active => .live
  | .trialing => .live
  | .canceled => .ended
  | .unpaid => .ended
  | _ => .nothing

theorem effectOf_eq_live_iff {status : SubscriptionStatus} :
    effectOf status = .live ↔ status = .active ∨ status = .trialing := by
  cases status <;> simp [effectOf]

theorem effectOf_eq_ended_iff {status : SubscriptionStatus} :
    effectOf status = .ended ↔ status = .canceled ∨ status = .unpaid := by
  cases status <;> simp [effectOf]

def applySubscription (e : SubscriptionEvent) : Action Reconciled := do
  let org ← Usage.loadOrganization e.address
  match effectOf e.status with
  | .live => applyLive org e
  | .ended => return ⟨← fallback org e.subscriptionId, none⟩
  | .nothing => pure ⟨.unchanged, none⟩

/-- Records a payment: nothing but the date of the last payment changes. -/
def applyInvoice (e : InvoiceEvent) : Action Outcome := do
  let org ← Usage.loadOrganization e.address
  if Calendar.sameMoment org.subscription.lastPaymentDate (some e.effectiveAt) then
    pure .unchanged
  else
    Action.store (.setSubscription org.address
      { org.subscription with lastPaymentDate := some e.effectiveAt })
    pure .updated

/-- Brings the plan sold under a product up to date. -/
def applyProduct (e : ProductEvent) : Action Outcome := do
  match ← Action.store (.planOfProduct e.productId) with
  | none => pure .unchanged
  | some plan =>
    let product ← Action.provider (.product e.productId)
    let prices ← Action.provider (.prices e.productId)
    let refreshed ← Action.ofExcept (planOfProduct plan product prices)
    if refreshed = plan then pure .unchanged
    else
      let _ ← Action.store (.setPlan refreshed)
      pure .updated

/-- Does follow-up work; failures are of no consequence. -/
def runFollowUp : Option CustomerBackfill → Proc Unit
  | none => .done ()
  | some b =>
    let metadata : Table String String := (∅ : Table String String).insert addressKey b.address
    .call (.provider (.updateMetadata b.customerId metadata)) fun _ => .done ()

end Reconcile

end TenantBilling
