import TenantBilling.Entitlement.Check
import TenantBilling.Health.Inspect
import TenantBilling.Proofs.Scene
import TenantBilling.Reconcile

/-! Which calls the operations make, and what they therefore leave alone. Queries ask the
store and open periods in it. Reconciliation writes to the store and asks the provider, but
changes nothing at the provider. Neither touches the ledger. -/

namespace TenantBilling

/-- A call that asks the store, or opens a period. -/
def StoreCall.IsQuery : StoreCall → Prop
  | .setOrganization _ => False
  | .setSubscription _ _ => False
  | .setPlan _ => False
  | _ => True

/-- A call that a permission or usage query can make. -/
def Call.IsQuery : Call → Prop
  | .now => True
  | .freshId => True
  | .store c => c.IsQuery
  | _ => False

/-- A call that reconciliation can make. -/
def Call.IsReconciling : Call → Prop
  | .now => True
  | .freshId => True
  | .store _ => True
  | .provider (.updateMetadata _ _) => False
  | .provider _ => True
  | _ => False

theorem Call.IsQuery.isReconciling (c : Call) (h : c.IsQuery) : c.IsReconciling := by
  cases c <;> trivial

/-! ## Queries -/

namespace Usage
open TenantBilling.Action

theorem loadOrganization_within (address : String) :
    Within Call.IsQuery (loadOrganization address) :=
  (within_store _ trivial).bind fun _ => within_orFail _ _

theorem openPeriod_within (org : Organization) (window : Window) :
    Within Call.IsQuery (openPeriod org window) :=
  (within_freshId trivial).bind fun _ => (within_now trivial).bind fun _ => within_store _ trivial

theorem baselineOf_within (org : Organization) (window : Window) :
    Within Call.IsQuery (baselineOf org window) := by
  refine (within_store _ trivial).bind fun stored => ?_
  cases stored with
  | none => exact openPeriod_within org window
  | some stored => exact within_pure stored

theorem ofOrganization_within (org : Organization) : Within Call.IsQuery (ofOrganization org) := by
  refine (within_now trivial).bind fun now => ?_
  cases currentPeriod? org.subscription now with
  | none => exact within_pure _
  | some window => exact (baselineOf_within org window).bind fun _ => within_pure _

theorem ofAddress_within (address : String) : Within Call.IsQuery (ofAddress address) :=
  (loadOrganization_within address).bind ofOrganization_within

theorem ensureSnapshot_within (org : Organization) : Within Call.IsQuery (ensureSnapshot org) := by
  refine (within_now trivial).bind fun now => ?_
  cases currentPeriod? org.subscription now with
  | none => exact within_pure _
  | some window => exact (baselineOf_within org window).map _

end Usage

namespace Entitlement
open TenantBilling.Action

theorem loadPlan_within (org : Organization) : Within Call.IsQuery (loadPlan org) :=
  (within_store _ trivial).bind fun _ => within_orFail _ _

theorem checkTx_within (allowance : Int) (tx : TxRequest) (address : String) (role : Role) :
    Within Call.IsQuery (checkTx allowance tx address role) := by
  refine (Usage.loadOrganization_within address).bind fun org => ?_
  cases subscriptionGate org.subscription with
  | error reason => exact within_pure _
  | ok =>
    refine (loadPlan_within org).bind fun plan => Within.bind ?_ fun _ => within_pure _
    unfold txUsage
    split
    · exact (Usage.ofOrganization_within org).map _
    · exact within_pure _

theorem quotaUsage_within (org : Organization) (address : String) (action : QuotaAction) :
    Within Call.IsQuery (quotaUsage org address action) := by
  cases action with
  | createDraft => exact (within_store _ trivial).bind fun _ => within_pure _
  | inviteUser => exact (within_store _ trivial).bind fun _ => within_pure _
  | createSubOrg => exact (within_store _ trivial).bind fun _ => within_pure _
  | publishCensus _ _ _ => exact (Usage.ofOrganization_within org).bind fun _ => within_pure _
  | deleteUser => exact within_pure _

theorem checkQuota_within (allowance : Int) (address : String) (role : Role)
    (action : QuotaAction) : Within Call.IsQuery (checkQuota allowance address role action) := by
  refine (Usage.loadOrganization_within address).bind fun org => ?_
  cases subscriptionGate org.subscription with
  | error reason => exact within_pure _
  | ok =>
    exact (loadPlan_within org).bind fun plan =>
      (quotaUsage_within org address action).bind fun _ => within_pure _

end Entitlement

/-! ## Reconciliation -/

namespace Reconcile
open TenantBilling.Action

theorem resolveCustomer_within (c : CustomerRef) :
    Within Call.IsReconciling (resolveCustomer c) := by
  unfold resolveCustomer
  split
  · exact within_pure _
  · exact within_lift ⟨trivial, fun _ => trivial⟩

theorem writeSubscription_within (org : Organization) (subscription : Subscription) :
    Within Call.IsReconciling (writeSubscription org subscription) := by
  unfold writeSubscription
  split
  · exact within_pure _
  · exact (within_store _ trivial).bind fun _ => within_pure _

theorem applyLive_within (org : Organization) (e : SubscriptionEvent) :
    Within Call.IsReconciling (applyLive org e) := by
  refine (within_store _ trivial).bind fun plan => (within_orFail _ _).bind fun plan =>
    (resolveCustomer_within _).bind fun customer =>
      (writeSubscription_within org _).bind fun outcome => ?_
  split
  · exact Within.bind (Proc.Within.mono Call.IsQuery.isReconciling (Usage.ensureSnapshot_within _))
      fun _ => within_pure _
  · exact within_pure _

theorem fallback_within (org : Organization) (subscriptionId : String) :
    Within Call.IsReconciling (fallback org subscriptionId) := by
  unfold fallback
  dsimp only
  split
  · exact within_pure _
  · refine (within_store _ trivial).bind fun _ => (within_orFail _ _).bind fun plan => ?_
    split
    · exact within_pure _
    · exact (within_now trivial).bind fun _ => (within_store _ trivial).bind fun _ => within_pure _

theorem loadOrganization_within (address : String) :
    Within Call.IsReconciling (Usage.loadOrganization address) :=
  Proc.Within.mono Call.IsQuery.isReconciling (Usage.loadOrganization_within address)

theorem applySubscription_within (e : SubscriptionEvent) :
    Within Call.IsReconciling (applySubscription e) := by
  refine (loadOrganization_within e.address).bind fun org => ?_
  cases effectOf e.status with
  | live => exact applyLive_within org e
  | ended => exact (fallback_within org e.subscriptionId).bind fun _ => within_pure _
  | nothing => exact within_pure _

theorem applyInvoice_within (e : InvoiceEvent) : Within Call.IsReconciling (applyInvoice e) := by
  refine (loadOrganization_within e.address).bind fun org => ?_
  split
  · exact within_pure _
  · exact (within_store _ trivial).bind fun _ => within_pure _

theorem applyProduct_within (e : ProductEvent) : Within Call.IsReconciling (applyProduct e) := by
  refine (within_store _ trivial).bind fun plan => ?_
  cases plan with
  | none => exact within_pure _
  | some plan =>
    refine (within_provider _ trivial).bind fun product => (within_provider _ trivial).bind
      fun prices => (within_ofExcept _).bind fun refreshed => ?_
    split
    · exact within_pure _
    · exact (within_store _ trivial).bind fun _ => within_pure _

end Reconcile

/-! ## What is left alone -/

/-- All but the store is as it was, planned failures and logs aside. -/
structure Scene.Frame (s t : Scene) : Prop where
  ledger : t.ledger.ledger = s.ledger.ledger
  customers : t.provider.customers = s.provider.customers
  catalog : t.provider.catalog = s.provider.catalog
  clock : t.clock = s.clock
  now : t.now = s.now

namespace Scene.Frame

theorem refl (s : Scene) : Frame s s := ⟨rfl, rfl, rfl, rfl, rfl⟩

theorem trans {s t u : Scene} (h : Frame s t) (h' : Frame t u) : Frame s u :=
  ⟨h'.ledger.trans h.ledger, h'.customers.trans h.customers, h'.catalog.trans h.catalog,
    h'.clock.trans h.clock, h'.now.trans h.now⟩

end Scene.Frame

/-- A provider that can be reached is not changed by being asked something. -/
theorem Provider.reply_lookup (p : Provider) {c : ProviderCall}
    (h : Call.IsReconciling (.provider c)) : (p.reply c).2 = p := by
  cases c with
  | updateMetadata => cases h
  | _ =>
    simp only [Provider.reply]
    split <;> rfl

theorem Provider.answer_lookup (p : Provider) {c : ProviderCall}
    (h : Call.IsReconciling (.provider c)) :
    (p.answer c).2.customers = p.customers ∧ (p.answer c).2.catalog = p.catalog := by
  unfold Provider.answer
  dsimp only
  split
  · exact ⟨rfl, rfl⟩
  · rw [Provider.reply_lookup _ h]
    exact ⟨rfl, rfl⟩

theorem Scene.Answers.frame {mayFail : Prop} {s t : Scene} {c : Call} {a : c.Answer}
    (hc : c.IsReconciling) (h : s.Answers mayFail c a t) : s.Frame t ∧ t.ledger = s.ledger := by
  cases c with
  | now =>
    obtain ⟨_, rfl⟩ := h
    exact ⟨.refl _, rfl⟩
  | freshId =>
    obtain rfl : t = s := h
    exact ⟨.refl _, rfl⟩
  | store c =>
    rcases h with ⟨_, rfl⟩ | ⟨_, _, rfl⟩
    · exact ⟨⟨rfl, rfl, rfl, rfl, rfl⟩, rfl⟩
    · exact ⟨.refl _, rfl⟩
  | provider c =>
    obtain ⟨_, rfl⟩ := h
    have hp := s.provider.answer_lookup hc
    exact ⟨⟨rfl, hp.1, hp.2, rfl, rfl⟩, rfl⟩
  | _ => cases hc

/-- Reconciliation leaves all but the store as it was, and the ledger altogether. -/
theorem Action.Gives.frame {α : Type} {mayFail : Prop} {x : Action α}
    (hx : x.Within Call.IsReconciling) {s t : Scene} {r : Except Failure α}
    (h : x.Gives mayFail s r t) : s.Frame t ∧ t.ledger = s.ledger := by
  refine Proc.Yields.keeps (fun u => s.Frame u ∧ u.ledger = s.ledger) ?_ hx h
    ⟨.refl s, rfl⟩
  intro u c a v hc hv ⟨hf, hl⟩
  obtain ⟨hf', hl'⟩ := hv.frame hc
  exact ⟨hf.trans hf', hl'.trans hl⟩

end TenantBilling
