import TenantBilling.Proofs.Handling

/-! What the events of a tenant make of its record, told without the store. The record is that
of the live subscription until an event ends this very subscription; from then on it is that
of the default plan, until another one is live. The date of the last payment is that of the
last invoice. -/

namespace TenantBilling

open Calendar

/-- An event that was taken in, and the time at which it was. -/
structure Occurrence where
  kind : EventKind
  now : DateTime
deriving DecidableEq

namespace Occurrence

/-- The event of a subscription that is active or in its trial. -/
def live? (o : Occurrence) : Option SubscriptionEvent :=
  match o.kind with
  | .subscription e => if e.status = .active ∨ e.status = .trialing then some e else none
  | _ => none

/-- The subscription that is canceled or unpaid. -/
def ended? (o : Occurrence) : Option String :=
  match o.kind with
  | .subscription e =>
    if e.status = .canceled ∨ e.status = .unpaid then some e.subscriptionId else none
  | _ => none

/-- The date of a payment. -/
def paid? (o : Occurrence) : Option DateTime :=
  match o.kind with
  | .invoice e => some e.effectiveAt
  | _ => none

end Occurrence

/-- What the record of a tenant is about. -/
inductive Phase where
  /-- No event has changed the subscription yet. -/
  | initial
  | live (e : SubscriptionEvent)
  | fallen (since : DateTime)

namespace Phase

/-- Whether the end of a subscription leaves the first record of a tenant alone: the record is
about another subscription, or about the default plan already. -/
def Spares (first : Subscription) (plan : Plan) (id : String) : Prop :=
  (first.providerId ≠ "" ∧ first.providerId ≠ id) ∨
    (first.providerId = "" ∧ first.planId = plan.id)

instance (first : Subscription) (plan : Plan) (id : String) : Decidable (Spares first plan id) :=
  inferInstanceAs (Decidable (_ ∨ _))

/-- The phase after an event; `first` is the record before all events, `plan` the default one. -/
def next (first : Subscription) (plan : Plan) (phase : Phase) (o : Occurrence) : Phase :=
  match o.live? with
  | some e => .live e
  | none =>
    match o.ended?, phase with
    | none, _ => phase
    | some _, .fallen since => .fallen since
    | some id, .live e => if id = e.subscriptionId then .fallen o.now else .live e
    | some id, .initial => if Spares first plan id then .initial else .fallen o.now

/-- Whether a record is what it has to be in a phase, the last payment apart. -/
def Holds (s : Store) (first : Subscription) (plan : Plan) (sub : Subscription) : Phase → Prop
  | initial => sub = { first with lastPaymentDate := sub.lastPaymentDate }
  | live e => e.subscriptionId ≠ "" ∧ ∃ sold, s.planOfProduct? e.productId = some sold ∧
      (Reconcile.liveSubscription e sold sub none).agrees sub = true
  | fallen since => sub = Reconcile.defaultSubscription plan since sub

end Phase

/-- The date of the last payment after some events. -/
def Payment (first : Subscription) (past : List Occurrence) (sub : Subscription) : Prop :=
  match (past.filterMap Occurrence.paid?).getLast? with
  | none => sub.lastPaymentDate = first.lastPaymentDate
  | some date => sameMoment sub.lastPaymentDate (some date) = true

/-- Whether a record is what some events make of it. -/
structure Says (s : Store) (first : Subscription) (plan : Plan) (past : List Occurrence)
    (sub : Subscription) : Prop where
  phase : (past.foldl (Phase.next first plan) .initial).Holds s first plan sub
  payment : Payment first past sub

theorem Says.nil (s : Store) (first : Subscription) (plan : Plan) :
    Says s first plan [] first := ⟨rfl, rfl⟩

/-- Two stores with the same plans, as far as an event can tell. -/
def Store.SameCatalog (s t : Store) : Prop :=
  ∀ id, (t.plans.get? id).map (fun p => (p.productId, p.isDefault)) =
    (s.plans.get? id).map fun p => (p.productId, p.isDefault)

/-- A catalog that sells no two plans under one product, and has one default plan. -/
structure Store.Orderly (s : Store) (plan : Plan) : Prop where
  distinct : ∀ p ∈ s.plans.values, ∀ q ∈ s.plans.values, p.productId = q.productId → p = q
  isDefault : plan ∈ s.plans.values ∧ plan.isDefault = true
  unique : ∀ p ∈ s.plans.values, p.isDefault = true → p = plan

namespace Store
variable {s t : Store} {plan : Plan}

theorem SameCatalog.refl (s : Store) : s.SameCatalog s := fun _ => rfl

theorem SameCatalog.trans {u : Store} (h : s.SameCatalog t) (h' : t.SameCatalog u) :
    s.SameCatalog u := fun id => (h' id).trans (h id)

theorem SameCatalog.symm (h : s.SameCatalog t) : t.SameCatalog s := fun id => (h id).symm

/-- What an event can tell of a plan. -/
def offer (p : Plan) : Int × String × Bool := (p.id, p.productId, p.isDefault)

theorem SameCatalog.offers (h : s.SameCatalog t) (hs : s.Sound) (ht : t.Sound) :
    t.plans.values.map offer = s.plans.values.map offer := by
  have keyed {u : Store} (hu : u.Sound) : u.plans.values.map offer =
      u.plans.entries.map fun e => (e.1, e.2.productId, e.2.isDefault) := by
    unfold Table.values
    rw [List.map_map]
    refine List.map_congr_left fun e he => ?_
    have hid := hu.plan e.1 e.2 ((Table.mem_entries_iff _ _ _).mp he)
    simp only [Function.comp_apply, offer, hid]
  have ascending (u : Store) : (u.plans.entries.map fun e =>
      (e.1, e.2.productId, e.2.isDefault)).Pairwise fun a b => Key.before a.1 b.1 = true :=
    List.pairwise_map.mpr u.plans.ascending
  have member (u : Store) (x : Int × String × Bool) :
      x ∈ (u.plans.entries.map fun e => (e.1, e.2.productId, e.2.isDefault)) ↔
        (u.plans.get? x.1).map (fun p => (p.productId, p.isDefault)) = some x.2 := by
    simp only [List.mem_map, Option.map_eq_some_iff, Prod.exists, Table.mem_entries_iff]
    constructor
    · rintro ⟨k, p, hp, rfl⟩
      exact ⟨p, hp, rfl⟩
    · rintro ⟨p, hp, hx⟩
      exact ⟨x.1, p, hp, Prod.ext rfl hx⟩
  rw [keyed hs, keyed ht]
  refine Table.entries_eq_of_mem_iff (ascending t) (ascending s) fun x => ?_
  rw [member, member, h]

/-- The plan sold under a product has the same id in a store with the same catalog. -/
theorem SameCatalog.planOfProduct? (h : s.SameCatalog t) (hs : s.Sound) (ht : t.Sound)
    (productId : String) :
    (t.planOfProduct? productId).map (·.id) = (s.planOfProduct? productId).map (·.id) := by
  have found (u : Store) : (u.planOfProduct? productId).map (·.id) =
      ((u.plans.values.map offer).find? fun x => x.2.1 == productId).map (·.1) := by
    rw [List.find?_map, Option.map_map]
    rfl
  rw [found, found, h.offers hs ht]

/-- The default plan has the same id in a store with the same catalog. -/
theorem SameCatalog.defaultPlan? (h : s.SameCatalog t) (hs : s.Sound) (ht : t.Sound) :
    t.defaultPlan?.map (·.id) = s.defaultPlan?.map (·.id) := by
  have found (u : Store) : u.defaultPlan?.map (·.id) =
      ((u.plans.values.map offer).find? (·.2.2)).map (·.1) := by
    rw [List.find?_map, Option.map_map]
    rfl
  rw [found, found, h.offers hs ht]

theorem planOfProduct?_some {productId : String} {p : Plan}
    (h : s.planOfProduct? productId = some p) : p ∈ s.plans.values ∧ p.productId = productId := by
  unfold planOfProduct? at h
  have hp := List.find?_some h
  exact ⟨List.mem_of_find?_eq_some h, beq_iff_eq.mp hp⟩

theorem defaultPlan?_some {p : Plan} (h : s.defaultPlan? = some p) :
    p ∈ s.plans.values ∧ p.isDefault = true := by
  unfold defaultPlan? at h
  have hp := List.find?_some h
  exact ⟨List.mem_of_find?_eq_some h, hp⟩

theorem SameCatalog.sold (h : s.SameCatalog t) (hs : s.Sound) (ht : t.Sound)
    {productId : String} {p : Plan} (hp : t.planOfProduct? productId = some p) :
    ∃ q, s.planOfProduct? productId = some q ∧ q.id = p.id := by
  have same := h.planOfProduct? hs ht productId
  rw [hp, Option.map_some] at same
  exact Option.map_eq_some_iff.mp same.symm

theorem SameCatalog.fallback (h : s.SameCatalog t) (hs : s.Sound) (ht : t.Sound) {p : Plan}
    (hp : t.defaultPlan? = some p) : ∃ q, s.defaultPlan? = some q ∧ q.id = p.id := by
  have same := h.defaultPlan? hs ht
  rw [hp, Option.map_some] at same
  exact Option.map_eq_some_iff.mp same.symm

theorem SameCatalog.default (h : s.SameCatalog t) (hs : s.Sound) (ht : t.Sound)
    (orderly : s.Orderly plan) {p : Plan} (hp : t.defaultPlan? = some p) : p.id = plan.id := by
  obtain ⟨q, hq, hid⟩ := h.fallback hs ht hp
  obtain ⟨hmem, hflag⟩ := defaultPlan?_some hq
  rw [← hid, orderly.unique q hmem hflag]

end Store

/-! ## One event more -/

section Step
variable {s : Store} {first sub : Subscription} {plan : Plan} {past : List Occurrence}
  {o : Occurrence}

/-- An event that is no payment leaves the date of the last one. -/
theorem Payment.keep {sub' : Subscription} (h : Payment first past sub) (ho : o.paid? = none)
    (hsub : sub'.lastPaymentDate = sub.lastPaymentDate) : Payment first (past ++ [o]) sub' := by
  unfold Payment at h ⊢
  rw [List.filterMap_append, List.filterMap_cons_none ho, List.filterMap_nil, List.append_nil,
    hsub]
  exact h

theorem Payment.paid {date : DateTime} (ho : o.paid? = some date)
    (hsub : sameMoment sub.lastPaymentDate (some date) = true) :
    Payment first (past ++ [o]) sub := by
  unfold Payment
  rw [List.filterMap_append, List.filterMap_cons_some ho, List.filterMap_nil,
    List.getLast?_concat]
  exact hsub

theorem Says.snoc (phase : (Phase.next first plan
      (past.foldl (Phase.next first plan) .initial) o).Holds s first plan sub)
    (payment : Payment first (past ++ [o]) sub) : Says s first plan (past ++ [o]) sub := by
  refine ⟨?_, payment⟩
  rw [List.foldl_append]
  exact phase

/-- A phase does not depend on the date of the last payment. -/
theorem Phase.Holds.pay {phase : Phase} (h : phase.Holds s first plan sub)
    (date : Option DateTime) : phase.Holds s first plan { sub with lastPaymentDate := date } := by
  cases phase with
  | initial =>
    have hsub : sub = { first with lastPaymentDate := sub.lastPaymentDate } := h
    rw [hsub]
    rfl
  | live e =>
    obtain ⟨hne, sold, hsold, hagrees⟩ := h
    refine ⟨hne, sold, hsold, ?_⟩
    simp only [Subscription.agrees, Reconcile.liveSubscription, sameMoment_refl] at hagrees ⊢
    exact hagrees
  | fallen since =>
    have hsub : sub = Reconcile.defaultSubscription plan since sub := h
    rw [hsub]
    rfl

/-- A payment: nothing but its date changes. -/
theorem Says.pay (h : Says s first plan past sub) {e : InvoiceEvent} {now : DateTime}
    {date : Option DateTime} (hdate : sameMoment date (some e.effectiveAt) = true) :
    Says s first plan (past ++ [⟨.invoice e, now⟩]) { sub with lastPaymentDate := date } :=
  .snoc (h.phase.pay date) (.paid rfl hdate)

/-- An event that is nobody's business changes nothing. -/
theorem Says.ignore (h : Says s first plan past sub) {e : SubscriptionEvent} {now : DateTime}
    (he : Reconcile.effectOf e.status = .nothing) :
    Says s first plan (past ++ [⟨.subscription e, now⟩]) sub := by
  refine .snoc ?_ (h.payment.keep rfl rfl)
  simp only [Phase.next, Occurrence.live?, Occurrence.ended?, ← Reconcile.effectOf_eq_live_iff,
    ← Reconcile.effectOf_eq_ended_iff, he]
  exact h.phase

/-- A live subscription: the record is that of the event, or said the same before. -/
theorem Says.live (h : Says s first plan past sub) {e : SubscriptionEvent} {now : DateTime}
    {sold p : Plan} {customer : Option Customer} (he : Reconcile.effectOf e.status = .live)
    (hne : e.subscriptionId ≠ "") (hsold : s.planOfProduct? e.productId = some sold)
    (hid : sold.id = p.id) :
    Says s first plan (past ++ [⟨.subscription e, now⟩])
      (if (Reconcile.liveSubscription e p sub customer).agrees sub then sub
        else Reconcile.liveSubscription e p sub customer) := by
  have hlive (previous : Subscription) (c : Option Customer) :
      Reconcile.liveSubscription e p previous c = Reconcile.liveSubscription e sold previous c := by
    simp only [Reconcile.liveSubscription, hid]
  rw [hlive]
  refine .snoc ?_ (h.payment.keep rfl ?_)
  · simp only [Phase.next, Occurrence.live?, ← Reconcile.effectOf_eq_live_iff, he, if_true]
    refine ⟨hne, sold, hsold, ?_⟩
    split
    · rename_i same
      exact Reconcile.agrees_of_live same
    · rw [Reconcile.live_none]
      exact Subscription.agrees_refl _
  · split <;> rfl

/-- Whether the end of a subscription counts can be told from the record as well as from the
phase: the record of a live subscription has its id, that of the default plan has none. -/
theorem Phase.Holds.next_ended {phase : Phase} (h : phase.Holds s first plan sub) {id : String}
    (hlive : o.live? = none) (hended : o.ended? = some id) :
    phase.next first plan o = if Spares sub plan id then phase else .fallen o.now := by
  unfold next
  rw [hlive, hended]
  cases phase with
  | initial =>
    have hsub : sub = { first with lastPaymentDate := sub.lastPaymentDate } := h
    rw [hsub]
    rfl
  | live e =>
    obtain ⟨hne, sold, -, hagrees⟩ := h
    have hprovider : sub.providerId = e.subscriptionId := by
      simp only [Subscription.agrees, Reconcile.liveSubscription, Bool.and_eq_true,
        beq_iff_eq] at hagrees
      exact hagrees.1.1.1.1.1.1.2.symm
    have hspares : Spares sub plan id ↔ id ≠ e.subscriptionId := by
      simp only [Spares, hprovider, ne_eq, hne, not_false_eq_true, true_and, false_and, or_false]
      exact ne_comm
    by_cases hid : id = e.subscriptionId
    · simp only [if_pos hid, if_neg fun hs => hspares.mp hs hid]
    · simp only [if_neg hid, if_pos (hspares.mpr hid)]
  | fallen since =>
    have hsub : sub = Reconcile.defaultSubscription plan since sub := h
    have hspares : Spares sub plan id := by
      rw [hsub]
      exact Or.inr ⟨rfl, rfl⟩
    exact (if_pos hspares).symm

/-- The end of a subscription: the record is that of the default plan, unless it was about
another subscription, or about the default plan already. -/
theorem Says.ended (h : Says s first plan past sub) {e : SubscriptionEvent} (now : DateTime)
    (he : Reconcile.effectOf e.status = .ended) :
    (Phase.Spares sub plan e.subscriptionId →
      Says s first plan (past ++ [⟨.subscription e, now⟩]) sub) ∧
    (¬Phase.Spares sub plan e.subscriptionId →
      Says s first plan (past ++ [⟨.subscription e, now⟩])
        (Reconcile.defaultSubscription plan now sub)) := by
  have hlive : (Occurrence.live? ⟨.subscription e, now⟩) = none := by
    simp only [Occurrence.live?, ← Reconcile.effectOf_eq_live_iff, he, reduceCtorEq, if_false]
  have hended : (Occurrence.ended? ⟨.subscription e, now⟩) = some e.subscriptionId := by
    simp only [Occurrence.ended?, ← Reconcile.effectOf_eq_ended_iff, he, if_true]
  have hnext := h.phase.next_ended hlive hended
  refine ⟨fun spared => .snoc ?_ (h.payment.keep rfl rfl),
    fun ended => .snoc ?_ (h.payment.keep rfl rfl)⟩
  · rw [hnext, if_pos spared]
    exact h.phase
  · rw [hnext, if_neg ended]
    rfl

end Step

/-! ## The phase after many events -/

namespace Phase
variable {first : Subscription} {plan : Plan} {e : SubscriptionEvent} {since : DateTime}
  {events : List Occurrence}

theorem foldl_fallen (h : ∀ o ∈ events, o.live? = none) :
    events.foldl (next first plan) (.fallen since) = .fallen since := by
  induction events with
  | nil => rfl
  | cons o events ih =>
    have ho : (fallen since).next first plan o = .fallen since := by
      unfold next
      rw [h o List.mem_cons_self]
      cases o.ended? <;> rfl
    rw [List.foldl_cons, ho]
    exact ih fun o ho => h o (List.mem_cons_of_mem _ ho)

theorem foldl_live (h : ∀ o ∈ events, o.live? = none ∧ o.ended? ≠ some e.subscriptionId) :
    events.foldl (next first plan) (.live e) = .live e := by
  induction events with
  | nil => rfl
  | cons o events ih =>
    obtain ⟨hlive, hended⟩ := h o List.mem_cons_self
    have ho : (live e).next first plan o = .live e := by
      unfold next
      rw [hlive]
      cases ho : o.ended? with
      | none => rfl
      | some id => exact if_neg fun hid => hended (ho.trans (congrArg some hid))
    rw [List.foldl_cons, ho]
    exact ih fun o ho => h o (List.mem_cons_of_mem _ ho)

theorem foldl_initial
    (h : ∀ o ∈ events, o.live? = none ∧ ∀ id, o.ended? = some id → Spares first plan id) :
    events.foldl (next first plan) .initial = .initial := by
  induction events with
  | nil => rfl
  | cons o events ih =>
    obtain ⟨hlive, hended⟩ := h o List.mem_cons_self
    have ho : initial.next first plan o = .initial := by
      unfold next
      rw [hlive]
      cases ho : o.ended? with
      | none => rfl
      | some id => exact if_pos (hended id ho)
    rw [List.foldl_cons, ho]
    exact ih fun o ho => h o (List.mem_cons_of_mem _ ho)

variable {before between after : List Occurrence} {o c : Occurrence}

/-- The last live subscription is the phase, unless it ended. -/
theorem foldl_of_live (ho : o.live? = some e)
    (hafter : ∀ x ∈ after, x.live? = none ∧ x.ended? ≠ some e.subscriptionId) :
    (before ++ o :: after).foldl (next first plan) .initial = .live e := by
  have hnext (phase : Phase) : phase.next first plan o = .live e := by
    unfold next
    rw [ho]
  rw [List.foldl_append, List.foldl_cons, hnext]
  exact foldl_live hafter

/-- Since the last live subscription ended, the default plan is the phase. -/
theorem foldl_of_ended (ho : o.live? = some e)
    (hbetween : ∀ x ∈ between, x.live? = none ∧ x.ended? ≠ some e.subscriptionId)
    (hlive : c.live? = none) (hc : c.ended? = some e.subscriptionId)
    (hafter : ∀ x ∈ after, x.live? = none) :
    (before ++ o :: (between ++ c :: after)).foldl (next first plan) .initial = .fallen c.now := by
  have hsplit : before ++ o :: (between ++ c :: after) =
      (before ++ o :: between) ++ c :: after := by simp
  have hnext : (live e).next first plan c = .fallen c.now := by
    unfold next
    rw [hlive, hc]
    exact if_pos rfl
  rw [hsplit, List.foldl_append, foldl_of_live ho hbetween, List.foldl_cons, hnext]
  exact foldl_fallen hafter

/-- Without a live subscription, the first end that counts is the beginning of the default
plan. -/
theorem foldl_of_first_ended {id : String}
    (hbefore : ∀ x ∈ before, x.live? = none ∧ ∀ id, x.ended? = some id → Spares first plan id)
    (hlive : c.live? = none) (hc : c.ended? = some id) (counts : ¬Spares first plan id)
    (hafter : ∀ x ∈ after, x.live? = none) :
    (before ++ c :: after).foldl (next first plan) .initial = .fallen c.now := by
  have hnext : initial.next first plan c = .fallen c.now := by
    unfold next
    rw [hlive, hc]
    exact if_neg counts
  rw [List.foldl_append, foldl_initial hbefore, List.foldl_cons, hnext]
  exact foldl_fallen hafter

end Phase

/-! ## In closed form -/

/-- A record that is about a live subscription: what counts is in the event, the plan is the
one sold under its product. -/
structure Subscription.IsOf (s : Store) (e : SubscriptionEvent) (sub : Subscription) : Prop where
  providerId : sub.providerId = e.subscriptionId
  period : sub.period = e.period
  startDate : sameMoment sub.startDate (some e.periodStart) = true
  renewalDate : sameMoment sub.renewalDate (some e.periodEnd) = true
  planId : ∃ plan, s.planOfProduct? e.productId = some plan ∧ sub.planId = plan.id
  active : sub.active = true

/-- A record that is about the default plan since a subscription ended: nothing of it is left but
the date of the last payment. -/
structure Subscription.IsFallen (plan : Plan) (since : DateTime) (sub : Subscription) : Prop where
  planId : sub.planId = plan.id
  providerId : sub.providerId = ""
  period : sub.period = .monthly
  startDate : sub.startDate = some since
  renewalDate : sub.renewalDate = none
  active : sub.active = true
  email : sub.email = ""

/-- The record of a tenant after some events, told from the events alone. Its record before
them was `first`; `plan` is the default one. -/
structure ClosedForm (s : Store) (first : Subscription) (plan : Plan) (events : List Occurrence)
    (sub : Subscription) : Prop where
  payment : Payment first events sub
  /-- The last live subscription did not end. -/
  live : ∀ before o after e, events = before ++ o :: after → o.live? = some e →
    (∀ x ∈ after, x.live? = none) → (∀ x ∈ after, x.ended? ≠ some e.subscriptionId) →
    sub.IsOf s e
  /-- The last live subscription ended, and `c` is the first event that says so. -/
  ended : ∀ before o between c after e, events = before ++ o :: (between ++ c :: after) →
    o.live? = some e → (∀ x ∈ between ++ c :: after, x.live? = none) →
    (∀ x ∈ between, x.ended? ≠ some e.subscriptionId) → c.ended? = some e.subscriptionId →
    sub.IsFallen plan c.now
  /-- No subscription was live, and the first record was not about one that ended. -/
  never : (∀ x ∈ events, x.live? = none) →
    (∀ x ∈ events, ∀ id, x.ended? = some id → Phase.Spares first plan id) →
    sub = { first with lastPaymentDate := sub.lastPaymentDate }
  /-- No subscription was live, and `c` is the first end of the one of the first record. -/
  lapsed : ∀ before c after id, events = before ++ c :: after → (∀ x ∈ events, x.live? = none) →
    (∀ x ∈ before, ∀ id, x.ended? = some id → Phase.Spares first plan id) →
    c.ended? = some id → ¬Phase.Spares first plan id → sub.IsFallen plan c.now

theorem Phase.Holds.isOf {s : Store} {first sub : Subscription} {plan : Plan}
    {e : SubscriptionEvent} (h : (Phase.live e).Holds s first plan sub) : sub.IsOf s e := by
  obtain ⟨-, sold, hsold, hagrees⟩ := h
  simp only [Subscription.agrees, Reconcile.liveSubscription, Bool.and_eq_true,
    beq_iff_eq] at hagrees
  obtain ⟨⟨⟨⟨⟨⟨⟨hplan, hprovider⟩, hperiod⟩, hstart⟩, hrenewal⟩, -⟩, hactive⟩, -⟩ := hagrees
  exact ⟨hprovider.symm, hperiod.symm, (sameMoment_comm _ _).trans hstart,
    (sameMoment_comm _ _).trans hrenewal, ⟨sold, hsold, hplan.symm⟩, hactive.symm⟩

theorem Phase.Holds.isFallen {s : Store} {first sub : Subscription} {plan : Plan}
    {since : DateTime} (h : (Phase.fallen since).Holds s first plan sub) :
    sub.IsFallen plan since := by
  have hsub : sub = Reconcile.defaultSubscription plan since sub := h
  rw [hsub]
  exact ⟨rfl, rfl, rfl, rfl, rfl, rfl, rfl⟩

theorem Says.closedForm {s : Store} {first sub : Subscription} {plan : Plan}
    {events : List Occurrence} (h : Says s first plan events sub) :
    ClosedForm s first plan events sub where
  payment := h.payment
  live := by
    rintro before o after e rfl ho hlive hended
    have hphase := h.phase
    rw [Phase.foldl_of_live ho fun x hx => ⟨hlive x hx, hended x hx⟩] at hphase
    exact hphase.isOf
  ended := by
    rintro before o between c after e rfl ho hlive hbetween hc
    have hphase := h.phase
    rw [Phase.foldl_of_ended ho
      (fun x hx => ⟨hlive x (List.mem_append_left _ hx), hbetween x hx⟩)
      (hlive c (List.mem_append_right _ List.mem_cons_self)) hc
      (fun x hx => hlive x (List.mem_append_right _ (List.mem_cons_of_mem _ hx)))] at hphase
    exact hphase.isFallen
  never := by
    intro hlive hspared
    have hphase := h.phase
    rw [Phase.foldl_initial fun x hx => ⟨hlive x hx, hspared x hx⟩] at hphase
    exact hphase
  lapsed := by
    rintro before c after id rfl hlive hspared hc counts
    have hphase := h.phase
    rw [Phase.foldl_of_first_ended
      (fun x hx => ⟨hlive x (List.mem_append_left _ hx), hspared x hx⟩)
      (hlive c (List.mem_append_right _ List.mem_cons_self)) hc counts
      (fun x hx => hlive x (List.mem_append_right _ (List.mem_cons_of_mem _ hx)))] at hphase
    exact hphase.isFallen

end TenantBilling
