import TenantBilling.Proofs.Baselines
import TenantBilling.Proofs.Repetition
import TenantBilling.Proofs.Replay

/-! What an event does to a store, part by part. An event amends the record of its tenant, opens
a period or brings a plan up to date, as far as it is about such things; each part is told from
what it depends on in the store. An event that is refused does none of it. -/

namespace TenantBilling

open Calendar

namespace Store
variable {s t : Store} {org : Organization}

/-- What snapshots there are once one is opened depends on those there were, and on nothing else. -/
theorem openSnapshot_snapshots_congr (h : t.snapshots = s.snapshots) (x : Snapshot) :
    (t.openSnapshot x).1.snapshots = (s.openSnapshot x).1.snapshots := by
  simp only [openSnapshot, h]
  cases s.snapshots.get? x.key with
  | none => rfl
  | some stored => exact h

/-- Nothing but a record is new. -/
theorem assign_rest (s : Store) (org : Organization) (subscription : Subscription) :
    s.assign org subscription = { s with
      organizations := (s.assign org subscription).organizations
      subscriptionWrites := (s.assign org subscription).subscriptionWrites } := by
  unfold assign
  split <;> rfl

/-- Nothing but a record and a snapshot is new. -/
theorem liveStore_rest (s : Store) (now : DateTime) (id : Uuid) (org : Organization)
    (e : SubscriptionEvent) (subscription : Subscription) :
    let t := Reconcile.liveStore s now id org e subscription
    t = { s with
      organizations := t.organizations
      snapshots := t.snapshots
      subscriptionWrites := t.subscriptionWrites } := by
  unfold Reconcile.liveStore
  split
  · rw [(opened_withBaseline _ _ _ _).rest, assign_rest]
  · rw [assign_rest]

theorem organization?_put (s : Store) (org : Organization) (subscription : Subscription)
    (a : String) : (s.putSubscription org subscription).organization? a =
      if a = org.address then some { org with subscription } else s.organization? a :=
  Table.get?_insert _ _ _ _

theorem organization?_assign (stored : s.organization? org.address = some org)
    (subscription : Subscription) (a : String) :
    (s.assign org subscription).organization? a =
      if a = org.address then some { org with
        subscription := if subscription.agrees org.subscription then org.subscription
          else subscription }
      else s.organization? a := by
  unfold assign
  split
  · split
    · rename_i ha
      rw [ha, stored]
    · rfl
  · exact organization?_put s org subscription a

end Store

namespace Delivery

/-- What becomes of a record when an event of its tenant is applied. -/
def amended (s : Store) (now : DateTime) (p : Provider) (sub : Subscription) :
    EventKind → Subscription
  | .subscription e =>
    match Reconcile.effectOf e.status with
    | .live =>
      match s.planOfProduct? e.productId with
      | none => sub
      | some plan =>
        let record := Reconcile.liveSubscription e plan sub (p.resolve e.customer)
        if record.agrees sub then sub else record
    | .ended =>
      match s.defaultPlan? with
      | none => sub
      | some plan =>
        if Phase.Spares sub plan e.subscriptionId then sub
        else Reconcile.defaultSubscription plan now sub
    | .nothing => sub
  | .invoice e =>
    if sameMoment sub.lastPaymentDate (some e.effectiveAt) then sub
    else { sub with lastPaymentDate := some e.effectiveAt }
  | .product _ => sub
  | .unhandled => sub

/-- The snapshot that opens the period an event begins, without the id that it will be given. -/
def opening? (s : Store) (now : DateTime) : EventKind → Option Snapshot
  | .subscription e =>
    if Reconcile.effectOf e.status = .live ∧ e.period = .annual ∧
        (s.planOfProduct? e.productId).isSome then do
      let org ← s.organization? e.address
      let window ← annualWindow? e.periodStart now
      pure {
        id := default
        address := org.address
        periodStart := window.start
        periodEnd := window.stop
        period := e.period
        baseline := org.counters
        createdAt := now }
    else none
  | _ => none

/-- The plan that an event brings up to date, as it is then. -/
def refreshed? (s : Store) (p : Provider) : EventKind → Option Plan
  | .product e => do
    let plan ← s.planOfProduct? e.productId
    let offer ← (p.offer e.productId).toOption
    (planOfProduct plan offer.1 offer.2).toOption
  | _ => none

/-- Why an event is refused, if it is. -/
def refusal? (s : Store) (p : Provider) : EventKind → Option BillingError
  | .subscription e =>
    match s.organization? e.address with
    | none => some (.organizationNotFound e.address)
    | some org =>
      match Reconcile.effectOf e.status with
      | .live =>
        if (s.planOfProduct? e.productId).isSome then none else some (.planNotFound e.productId)
      | .ended =>
        if Reconcile.isStale org.subscription e.subscriptionId = true ∨ s.defaultPlan?.isSome then
          none
        else some .defaultPlanMissing
      | .nothing => none
  | .invoice e =>
    if (s.organization? e.address).isSome then none else some (.organizationNotFound e.address)
  | .product e =>
    match s.planOfProduct? e.productId with
    | none => none
    | some plan =>
      match p.offer e.productId with
      | .error b => some b
      | .ok offer =>
        match planOfProduct plan offer.1 offer.2 with
        | .error b => some b
        | .ok _ => none
  | .unhandled => none

/-- What an event changes in a store: the second store has it changed, and all else is in it as
it was. -/
structure Change (s : Store) (now : DateTime) (p : Provider) (kind : EventKind) (t : Store) :
    Prop where
  organizations : ∀ a, t.organization? a = (s.organization? a).map fun org =>
    if kind.address? = some a then
      { org with subscription := amended s now p org.subscription kind }
    else org
  plans : t.plans = match refreshed? s p kind with
    | none => s.plans
    | some plan => s.plans.insert plan.id plan
  snapshots : ∃ id, t.snapshots = match opening? s now kind with
    | none => s.snapshots
    | some x => (s.openSnapshot { x with id }).1.snapshots
  rest : t = { s with
    organizations := t.organizations
    plans := t.plans
    snapshots := t.snapshots
    subscriptionWrites := t.subscriptionWrites }

variable {s t : Store} {now : DateTime} {p : Provider} {id : Uuid} {kind : EventKind}
  {org : Organization}

/-! ## Refusals -/

/-- An event ends in an error exactly when it is refused, and in that very one. -/
theorem settle_eq_error_iff {b : BillingError} :
    settle s now p id kind = .error b ↔ refusal? s p kind = some b := by
  cases kind with
  | subscription e =>
    simp only [settle, Reconcile.settleSubscription, refusal?]
    cases s.organization? e.address with
    | none => simp [Except.map]
    | some org =>
      dsimp only
      cases Reconcile.effectOf e.status with
      | live =>
        simp only [Reconcile.settleLive]
        cases s.planOfProduct? e.productId <;> simp [Except.map]
      | ended =>
        simp only [Reconcile.settleEnded]
        cases Reconcile.isStale org.subscription e.subscriptionId with
        | true => simp [Except.map]
        | false =>
          cases s.defaultPlan? with
          | none => simp [Except.map]
          | some plan =>
            dsimp only
            cases !org.subscription.hasProvider && org.subscription.planId == plan.id <;>
              simp [Except.map]
      | nothing => simp [Except.map]
  | invoice e =>
    simp only [settle, Reconcile.settleInvoice, refusal?]
    cases s.organization? e.address with
    | none => simp [Except.map]
    | some org =>
      dsimp only
      split <;> simp [Except.map]
  | product e =>
    simp only [settle, Reconcile.settleProduct, refusal?]
    cases s.planOfProduct? e.productId with
    | none => simp [Except.map]
    | some plan =>
      dsimp only [bind, Except.bind]
      cases p.offer e.productId with
      | error b => simp [Except.map]
      | ok offer =>
        dsimp only
        cases planOfProduct plan offer.1 offer.2 with
        | error b => simp [Except.map]
        | ok refreshed =>
          dsimp only
          split <;> simp [Except.map]
  | unhandled => simp [settle, refusal?]

/-! ## Parts -/

/-- What a subscription makes of a record does not depend on the payment. -/
theorem amended_pay (s : Store) (now : DateTime) (p : Provider) (e : SubscriptionEvent)
    (sub : Subscription) (date : Option DateTime) :
    amended s now p { sub with lastPaymentDate := date } (.subscription e) =
      { amended s now p sub (.subscription e) with lastPaymentDate := date } := by
  unfold amended
  dsimp only
  cases Reconcile.effectOf e.status with
  | live =>
    cases s.planOfProduct? e.productId with
    | none => rfl
    | some plan =>
      have agrees : (Reconcile.liveSubscription e plan { sub with lastPaymentDate := date }
          (p.resolve e.customer)).agrees { sub with lastPaymentDate := date } =
          (Reconcile.liveSubscription e plan sub (p.resolve e.customer)).agrees sub := by
        simp only [Subscription.agrees, Reconcile.liveSubscription, sameMoment_refl]
      simp only [agrees]
      split <;> rfl
  | ended =>
    cases s.defaultPlan? with
    | none => rfl
    | some plan =>
      have spares : Phase.Spares { sub with lastPaymentDate := date } plan e.subscriptionId ↔
          Phase.Spares sub plan e.subscriptionId := .rfl
      simp only [spares]
      split <;> rfl
  | nothing => rfl

/-- A subscription leaves the payment alone. -/
theorem amended_lastPaymentDate (s : Store) (now : DateTime) (p : Provider) (e : SubscriptionEvent)
    (sub : Subscription) :
    (amended s now p sub (.subscription e)).lastPaymentDate = sub.lastPaymentDate := by
  have pay := congrArg (·.lastPaymentDate) (amended_pay s now p e sub sub.lastPaymentDate)
  exact pay

/-- Only the start of a year opens a period, and one of the tenant's own. -/
theorem opening?_some (hs : s.Sound) {x : Snapshot} (h : opening? s now kind = some x) :
    ∃ e, kind = .subscription e ∧ Reconcile.effectOf e.status = .live ∧ e.period = .annual ∧
      x.address = e.address := by
  cases kind with
  | subscription e =>
    unfold opening? at h
    dsimp only at h
    split at h
    · rename_i opens
      obtain ⟨org, stored, h⟩ := Option.bind_eq_some_iff.mp h
      obtain ⟨window, -, h⟩ := Option.bind_eq_some_iff.mp h
      cases h
      exact ⟨e, rfl, opens.1, opens.2.1, hs.organization _ _ stored⟩
    · cases h
  | _ => cases h

/-- The period that the start of a year opens, when its plan is sold. -/
theorem opening?_of_annual {e : SubscriptionEvent} {plan : Plan}
    (stored : s.organization? e.address = some org)
    (live : Reconcile.effectOf e.status = .live) (annual : e.period = .annual)
    (sold : s.planOfProduct? e.productId = some plan) :
    opening? s now (.subscription e) = (annualWindow? e.periodStart now).map fun window => {
      id := default
      address := org.address
      periodStart := window.start
      periodEnd := window.stop
      period := e.period
      baseline := org.counters
      createdAt := now } := by
  simp only [opening?, live, annual, sold, stored, Option.isSome_some, and_self, if_true,
    Option.bind_eq_bind, Option.bind_some, Option.map_eq_bind]
  rfl

/-- A plan is known by its id. -/
theorem get?_of_sold (hs : s.Sound) {productId : String} {plan : Plan}
    (h : s.planOfProduct? productId = some plan) : s.plans.get? plan.id = some plan := by
  obtain ⟨k, hk⟩ := (Table.mem_values_iff _ _).mp (Store.planOfProduct?_some h).1
  rw [hs.plan k plan hk]
  exact hk

theorem ok_of_toOption {ε α : Type} {x : Except ε α} {a : α} (h : x.toOption = some a) :
    x = .ok a := by
  cases x with
  | error => cases h
  | ok b => rw [Option.some.inj h]

/-- A plan that is brought up to date is the one sold under the product, and it stays that one. -/
theorem refreshed?_some {new : Plan} (h : refreshed? s p kind = some new) :
    ∃ e plan offer, kind = .product e ∧ s.planOfProduct? e.productId = some plan ∧
      p.offer e.productId = .ok offer ∧ planOfProduct plan offer.1 offer.2 = .ok new := by
  cases kind with
  | product e =>
    obtain ⟨plan, sold, h⟩ := Option.bind_eq_some_iff.mp h
    obtain ⟨offer, offered, h⟩ := Option.bind_eq_some_iff.mp h
    exact ⟨e, plan, offer, rfl, sold, ok_of_toOption offered, ok_of_toOption h⟩
  | _ => cases h

/-- An event of a tenant is not about plans. -/
theorem refreshed?_of_address {a : String} (h : kind.address? = some a) :
    refreshed? s p kind = none := by
  cases kind with
  | product => cases h
  | _ => rfl

/-! ## Changes -/

/-- An event that finds no part to do leaves the store alone. -/
theorem Change.idle
    (record : ∀ a org, kind.address? = some a → s.organization? a = some org →
      amended s now p org.subscription kind = org.subscription)
    (closed : opening? s now kind = none)
    (plan : ∀ plan, refreshed? s p kind = some plan → s.plans.get? plan.id = some plan) :
    Change s now p kind s where
  organizations a := by
    cases stored : s.organization? a with
    | none => rfl
    | some org =>
      rw [Option.map_some]
      split
      · rename_i hk
        rw [record a org hk stored]
      · rfl
  plans := by
    cases hplan : refreshed? s p kind with
    | none => rfl
    | some new => exact (Table.insert_of_get? _ (plan new hplan)).symm
  snapshots := ⟨default, by rw [closed]⟩
  rest := rfl

/-- An event that finds the record of its organization as it should be. -/
theorem Change.keep (stored : s.organization? org.address = some org)
    (hk : kind.address? = some org.address)
    (keeps : amended s now p org.subscription kind = org.subscription)
    (closed : opening? s now kind = none) : Change s now p kind s := by
  refine .idle (fun a o ha ho => ?_) closed fun plan hplan => ?_
  · obtain rfl : org.address = a := Option.some.inj (hk.symm.trans ha)
    obtain rfl := Option.some.inj (stored.symm.trans ho)
    exact keeps
  · rw [refreshed?_of_address hk] at hplan
    cases hplan

/-- The records, when that of one organization is amended. -/
theorem organizations_of_amended (stored : s.organization? org.address = some org)
    (hk : kind.address? = some org.address)
    (written : ∀ a, t.organization? a = if a = org.address then
      some { org with subscription := amended s now p org.subscription kind }
      else s.organization? a) (a : String) :
    t.organization? a = (s.organization? a).map fun org =>
      if kind.address? = some a then
        { org with subscription := amended s now p org.subscription kind }
      else org := by
  rw [written]
  by_cases ha : a = org.address
  · rw [if_pos ha, ha, stored, Option.map_some, if_pos hk]
  · have hne : ¬kind.address? = some a := fun h => ha (Option.some.inj (h.symm.trans hk))
    simp only [if_neg ha, if_neg hne, Option.map_id']

/-- An event that amends a record and does nothing else. -/
theorem Change.put {sub : Subscription} (stored : s.organization? org.address = some org)
    (hk : kind.address? = some org.address)
    (amends : amended s now p org.subscription kind = sub)
    (closed : opening? s now kind = none) : Change s now p kind (s.putSubscription org sub) where
  organizations := by
    subst amends
    exact organizations_of_amended stored hk (Store.organization?_put s org _)
  plans := by
    rw [refreshed?_of_address hk]
    rfl
  snapshots := ⟨default, by rw [closed]; rfl⟩
  rest := rfl

/-- A live subscription, whose period is opened when it is an annual one. -/
theorem Change.live {e : SubscriptionEvent} {plan : Plan}
    (stored : s.organization? org.address = some org) (haddress : org.address = e.address)
    (live : Reconcile.effectOf e.status = .live)
    (sold : s.planOfProduct? e.productId = some plan) (id : Uuid) :
    Change s now p (.subscription e) (Reconcile.liveStore s now id org e
      (Reconcile.liveSubscription e plan org.subscription (p.resolve e.customer))) where
  organizations := by
    have amends : amended s now p org.subscription (.subscription e) =
        if (Reconcile.liveSubscription e plan org.subscription (p.resolve e.customer)).agrees
            org.subscription = true then org.subscription
        else Reconcile.liveSubscription e plan org.subscription (p.resolve e.customer) := by
      simp only [amended, live, sold]
    refine organizations_of_amended stored (congrArg some haddress.symm) fun a => ?_
    rw [amends, ← Store.organization?_assign stored]
    exact congrArg (Table.get? · a) (Reconcile.liveStore_organizations _ _ _ _ _ _)
  plans := by
    rw [Store.liveStore_rest]
    rfl
  snapshots := by
    refine ⟨id, ?_⟩
    unfold Reconcile.liveStore
    by_cases annual : e.period = .annual
    · have current : currentPeriod? (Reconcile.liveSubscription e plan org.subscription
          (p.resolve e.customer)) now = annualWindow? e.periodStart now := by
        simp only [currentPeriod?, Reconcile.liveSubscription, annual, Option.bind_some]
      rw [if_pos annual, opening?_of_annual (haddress ▸ stored) live annual sold]
      unfold Store.withBaseline
      dsimp only
      rw [current]
      cases annualWindow? e.periodStart now with
      | none => exact Store.assign_snapshots _ _ _
      | some window =>
        exact Store.openSnapshot_snapshots_congr (Store.assign_snapshots _ _ _) _
    · have closed : opening? s now (.subscription e) = none := by
        simp only [opening?, annual, false_and, and_false, if_false]
      rw [if_neg annual, closed]
      exact Store.assign_snapshots _ _ _
  rest := by
    rw [Store.liveStore_rest]

/-- A plan is brought up to date. -/
theorem Change.product {e : ProductEvent} (hs : s.Sound)
    (h : settle s now p id (.product e) = .ok t) : Change s now p (.product e) t := by
  rcases settle_product_ok h with
    ⟨unsold, rfl⟩ | ⟨plan, offer, refreshed, sold, offered, hrefreshed, hcases⟩
  · refine .idle (fun _ _ hk => nomatch hk) rfl fun plan hplan => ?_
    simp only [refreshed?, unsold, Option.bind_eq_bind, Option.bind_none] at hplan
    cases hplan
  · have hplan : refreshed? s p (.product e) = some refreshed := by
      simp only [refreshed?, sold, offered, hrefreshed, Except.toOption, Option.bind_eq_bind,
        Option.bind_some]
    obtain ⟨hid, -, -⟩ := planOfProduct_ok hrefreshed
    have stored := get?_of_sold hs sold
    rcases hcases with ⟨rfl, rfl⟩ | rfl
    · refine .idle (fun _ _ hk => nomatch hk) rfl fun new hnew => ?_
      obtain rfl := Option.some.inj (hplan.symm.trans hnew)
      exact stored
    · have hne : refreshed.id ≠ 0 := hid ▸ (hs.planId _ plan stored).1
      unfold Store.setPlan
      rw [if_neg hne]
      refine ⟨fun a => ?_, ?_, ⟨default, rfl⟩, ?_⟩
      · simp only [EventKind.address?, reduceCtorEq, if_false, Option.map_id']
        rfl
      · rw [hplan]
      · have hmax : max s.lastPlanId refreshed.id = s.lastPlanId := by
          rw [hid]
          exact Int.max_eq_left (hs.planId _ plan stored).2
        rw [hmax]

/-- A payment is written down, or was before. -/
theorem Change.invoice {e : InvoiceEvent} (hs : s.Sound)
    (h : settle s now p id (.invoice e) = .ok t) : Change s now p (.invoice e) t := by
  simp only [settle, Reconcile.settleInvoice] at h
  cases stored : s.organization? e.address with
  | none =>
    rw [stored] at h
    cases h
  | some org =>
    rw [stored] at h
    have haddress := hs.organization _ _ stored
    rw [← haddress] at stored
    dsimp only at h
    split at h
    · rename_i same
      cases h
      exact .keep stored (congrArg some haddress.symm) (if_pos same) rfl
    · rename_i new
      cases h
      exact .put stored (congrArg some haddress.symm) (if_neg new) rfl

/-- The record of a subscription that ended is that of the default plan, unless it is spared. -/
theorem Change.ended {e : SubscriptionEvent} {outcome : Outcome}
    (stored : s.organization? org.address = some org) (haddress : org.address = e.address)
    (status : Reconcile.effectOf e.status = .ended)
    (h : Reconcile.settleEnded s now org e.subscriptionId = .ok (outcome, t)) :
    Change s now p (.subscription e) t := by
  have hk : (EventKind.subscription e).address? = some org.address := congrArg some haddress.symm
  have closed : opening? s now (.subscription e) = none := by
    simp only [opening?, status, reduceCtorEq, false_and, if_false]
  rcases settleEnded_ok h with ⟨stale, rfl⟩ | ⟨plan, hplan, ⟨spares, rfl⟩ | ⟨counts, rfl⟩⟩
  · refine .keep stored hk ?_ closed
    simp only [amended, status]
    cases t.defaultPlan? with
    | none => rfl
    | some plan => exact if_pos (Or.inl (Reconcile.isStale_iff.mp stale))
  · refine .keep stored hk ?_ closed
    simp only [amended, status, hplan]
    exact if_pos spares
  · refine .put stored hk ?_ closed
    simp only [amended, status, hplan]
    exact if_neg counts

/-- An event that is settled has changed what it is about. -/
theorem Change.of_settled (hs : s.Sound) (h : settle s now p id kind = .ok t) :
    Change s now p kind t := by
  cases kind with
  | subscription e =>
    obtain ⟨org, stored, hcases⟩ := settle_subscription_ok h
    have haddress := hs.organization _ _ stored
    rw [← haddress] at stored
    rcases hcases with ⟨live, plan, sold, rfl⟩ | ⟨ended, outcome, h⟩ | ⟨nothing, rfl⟩
    · exact .live stored haddress live sold id
    · exact .ended stored haddress ended h
    · refine .idle (fun _ _ _ _ => ?_) ?_ fun _ hplan => nomatch hplan
      · simp only [amended, nothing]
      · simp only [opening?, nothing, reduceCtorEq, false_and, if_false]
  | invoice e => exact .invoice hs h
  | product e => exact .product hs h
  | unhandled =>
    cases h
    exact .idle (fun _ _ _ _ => rfl) rfl fun _ hplan => nomatch hplan

/-- An event that is refused has nothing to do. -/
theorem Change.of_refused {b : BillingError} (h : refusal? s p kind = some b) :
    Change s now p kind s := by
  cases kind with
  | subscription e =>
    refine .idle (fun a org hk stored => ?_) ?_ fun _ hplan => nomatch hplan
    · obtain rfl : e.address = a := Option.some.inj hk
      simp only [refusal?, stored] at h
      unfold amended
      dsimp only
      cases he : Reconcile.effectOf e.status with
      | live =>
        simp only [he] at h
        cases sold : s.planOfProduct? e.productId with
        | none => rfl
        | some plan => simp [sold] at h
      | ended =>
        simp only [he] at h
        cases fallback : s.defaultPlan? with
        | none => rfl
        | some plan => simp [fallback] at h
      | nothing => rfl
    · unfold opening?
      dsimp only
      split
      · rename_i opens
        cases stored : s.organization? e.address with
        | none => rfl
        | some org => simp [refusal?, stored, opens.1, opens.2.2] at h
      · rfl
  | invoice e =>
    refine .idle (fun a org hk stored => ?_) rfl fun _ hplan => nomatch hplan
    obtain rfl : e.address = a := Option.some.inj hk
    simp [refusal?, stored] at h
  | product e =>
    -- a plan that is brought up to date is sold, offered and described well
    refine .idle (fun _ _ hk => nomatch hk) rfl fun new hnew => ?_
    obtain ⟨_, plan, offer, hkind, sold, offered, described⟩ := refreshed?_some hnew
    cases hkind
    simp [refusal?, sold, offered, described] at h
  | unhandled => exact .idle (fun _ _ _ _ => rfl) rfl fun _ hplan => nomatch hplan

end Delivery

end TenantBilling
