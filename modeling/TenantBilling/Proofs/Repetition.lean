import TenantBilling.Proofs.ClosedForm
import TenantBilling.Proofs.Insensitivity

/-! Events that are applied again. A record heeds an event when applying the event would leave
it as it is. The record of a tenant heeds an event from when it was applied, and goes on to
while other events come that do not contest it: another payment contests a payment, and what
begins a subscription and what ends it contest each other. -/

namespace TenantBilling

open Calendar

/-! ## Records that heed an event -/

/-- Whether applying an event would leave the record of its tenant as it is. -/
def Heeds (s : Store) (p : Provider) (sub : Subscription) : EventKind → Prop
  | .subscription e =>
    match Reconcile.effectOf e.status with
    | .live => ∃ plan, s.planOfProduct? e.productId = some plan ∧
        (Reconcile.liveSubscription e plan sub (p.resolve e.customer)).agrees sub = true
    | .ended => Reconcile.isStale sub e.subscriptionId = true ∨
        ∃ plan, s.defaultPlan? = some plan ∧ Phase.Spares sub plan e.subscriptionId
    | .nothing => True
  | .invoice e => sameMoment sub.lastPaymentDate (some e.effectiveAt) = true
  | .product _ => True
  | .unhandled => True

/-- What applying an event makes of the record of its tenant. -/
inductive Amends (s : Store) (now : DateTime) (p : Provider) (sub : Subscription) :
    EventKind → Subscription → Prop
  | heeded {kind : EventKind} (heeds : Heeds s p sub kind) : Amends s now p sub kind sub
  | begun {e : SubscriptionEvent} {plan : Plan} (live : Reconcile.effectOf e.status = .live)
    (sold : s.planOfProduct? e.productId = some plan) :
    Amends s now p sub (.subscription e)
      (Reconcile.liveSubscription e plan sub (p.resolve e.customer))
  | ended {e : SubscriptionEvent} {plan : Plan} (ended : Reconcile.effectOf e.status = .ended)
    (fallback : s.defaultPlan? = some plan) (counts : ¬Phase.Spares sub plan e.subscriptionId) :
    Amends s now p sub (.subscription e) (Reconcile.defaultSubscription plan now sub)
  | paid {e : InvoiceEvent} :
    Amends s now p sub (.invoice e) { sub with lastPaymentDate := some e.effectiveAt }

/-- Whether a subscription event can undo what another one of the same tenant did. -/
def SubscriptionEvent.contests (x e : SubscriptionEvent) : Bool :=
  match Reconcile.effectOf x.status, Reconcile.effectOf e.status with
  | .live, .live => true
  | .live, .ended => x.subscriptionId == e.subscriptionId || x.subscriptionId == ""
  | .ended, .live => x.subscriptionId == e.subscriptionId || e.subscriptionId == ""
  | _, _ => false

/-- Whether an event can undo what another one did. -/
def EventKind.contests : EventKind → EventKind → Bool
  | .subscription x, .subscription e => x.address == e.address && x.contests e
  | .invoice x, .invoice e => x.address == e.address
  | _, _ => false

section Records
variable {s t : Store} {now : DateTime} {p : Provider} {sub sub' : Subscription}
  {kind other : EventKind}

/-- An event that was applied is heeded. -/
theorem Amends.heeds (h : Amends s now p sub kind sub') : Heeds s p sub' kind := by
  cases h with
  | heeded heeds => exact heeds
  | @begun e plan live sold =>
    simp only [Heeds, live]
    refine ⟨plan, sold, ?_⟩
    rw [Reconcile.live_over (Or.inr rfl)]
    exact Subscription.agrees_refl _
  | @ended e plan ended fallback counts =>
    simp only [Heeds, ended]
    exact Or.inr ⟨plan, fallback, Or.inr ⟨rfl, rfl⟩⟩
  | paid => exact sameMoment_refl _

/-- The date of a payment matters to payments alone. -/
theorem Heeds.pay {e : SubscriptionEvent} (h : Heeds s p sub (.subscription e))
    (date : Option DateTime) :
    Heeds s p { sub with lastPaymentDate := date } (.subscription e) := by
  unfold Heeds at h ⊢
  dsimp only at h ⊢
  split at h
  · obtain ⟨plan, sold, agrees⟩ := h
    refine ⟨plan, sold, ?_⟩
    simp only [Subscription.agrees, Reconcile.liveSubscription, sameMoment_refl] at agrees ⊢
    exact agrees
  · exact h
  · trivial

/-- A record that heeds the beginning of a subscription is about that subscription. -/
theorem Heeds.providerId {e : SubscriptionEvent} (live : Reconcile.effectOf e.status = .live)
    (h : Heeds s p sub (.subscription e)) : sub.providerId = e.subscriptionId := by
  simp only [Heeds, live] at h
  obtain ⟨plan, -, agrees⟩ := h
  simp only [Subscription.agrees, Reconcile.liveSubscription, Bool.and_eq_true,
    beq_iff_eq] at agrees
  exact agrees.1.1.1.1.1.1.2.symm

/-- A record goes on to heed an event while no event comes that contests it. -/
theorem Heeds.amended (h : Heeds s p sub kind) (same : other.address? = kind.address?)
    (apart : other.contests kind = false) (amends : Amends s now p sub other sub') :
    Heeds s p sub' kind := by
  cases kind with
  | invoice e =>
    cases amends with
    | heeded => exact h
    | begun => exact h
    | ended => exact h
    | @paid x =>
      have address : x.address = e.address := Option.some.inj same
      simp [EventKind.contests, address] at apart
  | subscription e =>
    cases amends with
    | heeded => exact h
    | paid => exact h.pay _
    | @begun x plan live sold =>
      have address : x.address = e.address := Option.some.inj same
      cases he : Reconcile.effectOf e.status with
      | live => simp [EventKind.contests, SubscriptionEvent.contests, address, live, he] at apart
      | ended =>
        simp [EventKind.contests, SubscriptionEvent.contests, address, live, he] at apart
        simp only [Heeds, he]
        exact Or.inl (Reconcile.isStale_iff.mpr ⟨apart.2, apart.1⟩)
      | nothing => simp only [Heeds, he]
    | @ended x plan ended fallback counts =>
      have address : x.address = e.address := Option.some.inj same
      cases he : Reconcile.effectOf e.status with
      | live =>
        simp [EventKind.contests, SubscriptionEvent.contests, address, ended, he] at apart
        have about := h.providerId he
        refine absurd (Or.inl ⟨about ▸ apart.2, fun hx => ?_⟩) counts
        exact apart.1 (hx.symm.trans about)
      | ended =>
        simp only [Heeds, he]
        exact Or.inr ⟨plan, fallback, Or.inr ⟨rfl, rfl⟩⟩
      | nothing => simp only [Heeds, he]
  | product => trivial
  | unhandled => trivial

/-- Heeding an event depends on the ids of plans alone. -/
theorem Heeds.transfer (h : Heeds s p sub kind) (catalog : s.SameCatalog t) (hs : s.Sound)
    (ht : t.Sound) : Heeds t p sub kind := by
  cases kind with
  | subscription e =>
    cases he : Reconcile.effectOf e.status with
    | live =>
      simp only [Heeds, he] at h ⊢
      obtain ⟨plan, sold, agrees⟩ := h
      obtain ⟨plan', sold', hid⟩ := catalog.symm.sold ht hs sold
      refine ⟨plan', sold', ?_⟩
      unfold Reconcile.liveSubscription at agrees ⊢
      rw [hid]
      exact agrees
    | ended =>
      simp only [Heeds, he] at h ⊢
      rcases h with stale | ⟨plan, fallback, spares⟩
      · exact Or.inl stale
      · obtain ⟨plan', fallback', hid⟩ := catalog.symm.fallback ht hs fallback
        refine Or.inr ⟨plan', fallback', ?_⟩
        unfold Phase.Spares at spares ⊢
        rw [hid]
        exact spares
    | nothing => simp only [Heeds, he]
  | invoice e => exact h
  | product => trivial
  | unhandled => trivial

end Records

/-! ## Events that are settled -/

namespace Store

theorem assign_organizations (s : Store) (org : Organization) (subscription : Subscription) :
    (s.assign org subscription).organizations =
      if subscription.agrees org.subscription then s.organizations
      else s.organizations.insert org.address { org with subscription } := by
  unfold assign
  split <;> rfl

end Store

namespace Delivery
variable {s t : Store} {now : DateTime} {p q : Provider} {id : Uuid} {kind : EventKind}

/-- Settling an event amends the record of its tenant. -/
theorem settle_amends {address : String} (hs : s.Sound) (hk : kind.address? = some address)
    (h : settle s now p id kind = .ok t) :
    ∃ org org', s.organization? address = some org ∧ t.organization? address = some org' ∧
      Amends s now p org.subscription kind org'.subscription := by
  cases kind with
  | subscription e =>
    obtain rfl : e.address = address := Option.some.inj hk
    obtain ⟨org, stored, settled⟩ := settle_subscription_ok h
    have haddress := hs.organization _ _ stored
    refine ⟨org, ?_⟩
    rcases settled with ⟨live, plan, sold, rfl⟩ | ⟨ended, outcome, settled⟩ | ⟨nothing, rfl⟩
    · obtain ⟨org', stored', hsub⟩ := organization?_live (haddress.symm ▸ stored) now id e
        (Reconcile.liveSubscription e plan org.subscription (p.resolve e.customer))
      rw [haddress] at stored'
      refine ⟨org', stored, stored', ?_⟩
      rw [hsub]
      split
      · rename_i agrees
        refine .heeded ?_
        simp only [Heeds, live]
        exact ⟨plan, sold, agrees⟩
      · exact .begun live sold
    · rcases settleEnded_ok settled with
        ⟨stale, rfl⟩ | ⟨plan, fallback, ⟨spares, rfl⟩ | ⟨counts, rfl⟩⟩
      · refine ⟨org, stored, stored, .heeded ?_⟩
        simp only [Heeds, ended]
        exact Or.inl stale
      · refine ⟨org, stored, stored, .heeded ?_⟩
        simp only [Heeds, ended]
        exact Or.inr ⟨plan, fallback, spares⟩
      · have stored' := Reconcile.organization?_put (s := s)
          (Reconcile.defaultSubscription plan now org.subscription) (s.subscriptionWrites + 1)
          haddress
        exact ⟨_, stored, stored', .ended ended fallback counts⟩
    · refine ⟨org, stored, stored, .heeded ?_⟩
      simp only [Heeds, nothing]
  | invoice e =>
    obtain rfl : e.address = address := Option.some.inj hk
    obtain ⟨org, stored, settled⟩ := settle_invoice_ok h
    have haddress := hs.organization _ _ stored
    rcases settled with ⟨same, rfl⟩ | rfl
    · exact ⟨org, org, stored, stored, .heeded same⟩
    · have stored' := Reconcile.organization?_put (s := s)
        { org.subscription with lastPaymentDate := some e.effectiveAt }
        (s.subscriptionWrites + 1) haddress
      exact ⟨org, _, stored, stored', .paid⟩
  | product => cases hk
  | unhandled => cases hk

/-- An event that is heeded is settled, and no record changes. -/
theorem settle_of_heeds {address : String} {org : Organization} (hk : kind.address? = some address)
    (stored : s.organization? address = some org) (h : Heeds s p org.subscription kind)
    (now : DateTime) (id : Uuid) :
    ∃ t, settle s now p id kind = .ok t ∧ t.organizations = s.organizations := by
  cases kind with
  | subscription e =>
    obtain rfl : e.address = address := Option.some.inj hk
    cases he : Reconcile.effectOf e.status with
    | live =>
      simp only [Heeds, he] at h
      obtain ⟨plan, sold, agrees⟩ := h
      refine ⟨_, settle_live he stored sold, ?_⟩
      rw [Reconcile.liveStore_organizations, Store.assign_organizations, if_pos agrees]
    | ended =>
      simp only [Heeds, he] at h
      refine ⟨s, ?_, rfl⟩
      have left : Reconcile.settleEnded s now org e.subscriptionId = .ok (.unchanged, s) := by
        rcases h with stale | ⟨plan, fallback, spares⟩
        · exact if_pos stale
        · exact Reconcile.settleEnded_of_spares fallback spares
      simp only [settle, Reconcile.settleSubscription, stored, he, left]
      rfl
    | nothing =>
      refine ⟨s, ?_, rfl⟩
      simp only [settle, Reconcile.settleSubscription, stored, he]
      rfl
  | invoice e =>
    obtain rfl : e.address = address := Option.some.inj hk
    have same : sameMoment org.subscription.lastPaymentDate (some e.effectiveAt) = true := h
    refine ⟨s, ?_, rfl⟩
    simp only [settle, Reconcile.settleInvoice, stored, same, if_true]
    rfl
  | product => cases hk
  | unhandled => cases hk

/-- Two ends of an event that leave the same records, or both are errors. -/
def SameRecords : Except BillingError Store → Except BillingError Store → Prop
  | .ok s, .ok t => t.organizations = s.organizations
  | .error _, .error _ => True
  | _, _ => False

theorem SameRecords.of_ok {x y : Except BillingError Store} (h : SameRecords x y) (hx : x = .ok s) :
    ∃ t, y = .ok t ∧ t.organizations = s.organizations := by
  subst hx
  cases y with
  | ok t => exact ⟨t, rfl, h⟩
  | error b => exact h.elim

theorem SameRecords.of_error {x y : Except BillingError Store} {b : BillingError}
    (h : SameRecords x y) (hx : x = .error b) : ∃ b', y = .error b' := by
  subst hx
  cases y with
  | ok t => exact h.elim
  | error b' => exact ⟨b', rfl⟩

section SameRecords
variable (same : t.organizations = s.organizations) (catalog : s.SameCatalog t) (hs : s.Sound)
  (ht : t.Sound)
include same catalog hs ht

theorem settleLive_sameRecords (now : DateTime) (c : Option Customer) (id id' : Uuid)
    (org : Organization) (e : SubscriptionEvent) :
    SameRecords ((Reconcile.settleLive s now c id org e).map (·.2))
      ((Reconcile.settleLive t now c id' org e).map (·.2)) := by
  have sold := catalog.planOfProduct? hs ht e.productId
  unfold Reconcile.settleLive
  cases hp : s.planOfProduct? e.productId with
  | none =>
    rw [hp, Option.map_none, Option.map_eq_none_iff] at sold
    rw [sold]
    trivial
  | some plan =>
    rw [hp, Option.map_some, Option.map_eq_some_iff] at sold
    obtain ⟨plan', hplan', hid⟩ := sold
    have record : Reconcile.liveSubscription e plan' org.subscription c =
        Reconcile.liveSubscription e plan org.subscription c := by
      simp only [Reconcile.liveSubscription, hid]
    rw [hplan']
    simp only [Except.map, SameRecords, Reconcile.liveStore_organizations,
      Store.assign_organizations, record, same]

theorem settleEnded_sameRecords (now : DateTime) (org : Organization) (subscriptionId : String) :
    SameRecords ((Reconcile.settleEnded s now org subscriptionId).map (·.2))
      ((Reconcile.settleEnded t now org subscriptionId).map (·.2)) := by
  have fallback := catalog.defaultPlan? hs ht
  unfold Reconcile.settleEnded
  split
  · exact same
  · cases hp : s.defaultPlan? with
    | none =>
      rw [hp, Option.map_none, Option.map_eq_none_iff] at fallback
      rw [fallback]
      trivial
    | some plan =>
      rw [hp, Option.map_some, Option.map_eq_some_iff] at fallback
      obtain ⟨plan', hplan', hid⟩ := fallback
      have record : Reconcile.defaultSubscription plan' now org.subscription =
          Reconcile.defaultSubscription plan now org.subscription := by
        simp only [Reconcile.defaultSubscription, hid]
      rw [hplan']
      dsimp only
      rw [hid]
      split
      · exact same
      · simp only [Except.map, SameRecords, Store.putSubscription, record, same]

/-- Stores with the same records and the same catalog have the same records after an event
of a tenant. -/
theorem settle_sameRecords (hk : kind.address?.isSome = true) (now : DateTime)
    (id id' : Uuid) : SameRecords (settle s now p id kind) (settle t now p id' kind) := by
  have found (address : String) : t.organization? address = s.organization? address :=
    congrArg (Table.get? · address) same
  cases kind with
  | subscription e =>
    simp only [settle, Reconcile.settleSubscription, found]
    cases stored : s.organization? e.address with
    | none => trivial
    | some org =>
      cases he : Reconcile.effectOf e.status with
      | live => exact settleLive_sameRecords same catalog hs ht now _ id id' org e
      | ended =>
        have ended := settleEnded_sameRecords same catalog hs ht now org e.subscriptionId
        dsimp only
        generalize Reconcile.settleEnded s now org e.subscriptionId = x at ended ⊢
        generalize Reconcile.settleEnded t now org e.subscriptionId = y at ended ⊢
        cases x <;> cases y <;> exact ended
      | nothing => exact same
  | invoice e =>
    simp only [settle, Reconcile.settleInvoice, found]
    cases stored : s.organization? e.address with
    | none => trivial
    | some org =>
      dsimp only
      split
      · exact same
      · simp only [Except.map, SameRecords, Store.putSubscription, same]
  | product => cases hk
  | unhandled => cases hk

end SameRecords

/-- An event of no tenant leaves all records. -/
theorem settle_organizations (hs : s.Sound) (hk : kind.address? = none)
    (h : settle s now p id kind = .ok t) : t.organizations = s.organizations :=
  Table.ext_get? fun a => (settle_keeps hs h).others a fun ha => nomatch hk.symm.trans ha

/-- Settling an event depends on what the provider says, the metadata of customers apart. -/
theorem settle_congr (face : ∀ c, (q.resolve c).map Customer.face = (p.resolve c).map Customer.face)
    (offer : ∀ productId, q.offer productId = p.offer productId) :
    settle s now q id kind = settle s now p id kind := by
  cases kind with
  | subscription e =>
    simp only [settle, Reconcile.settleSubscription]
    cases s.organization? e.address with
    | none => rfl
    | some org =>
      cases Reconcile.effectOf e.status with
      | live =>
        simp only [Reconcile.settleLive]
        cases s.planOfProduct? e.productId with
        | none => rfl
        | some plan =>
          dsimp only [Except.map]
          rw [Reconcile.liveSubscription_congr (face e.customer)]
      | ended => rfl
      | nothing => rfl
  | invoice => rfl
  | product e => simp only [settle, offer]
  | unhandled => rfl

end Delivery

end TenantBilling
