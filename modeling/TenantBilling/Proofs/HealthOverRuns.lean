import TenantBilling.Proofs.HealthReports
import TenantBilling.Proofs.Repetition

/-! Health over runs of deliveries. What an event makes of a subscription makes sense in the
catalog, with one exception: an active subscription is written down as it is said to be, and one
that has an id is not looked for on the default plan, nor one without an id on another plan. A
run of deliveries keeps the store healthy if no such event is among them, whatever fails; and a
delivery that takes in such an event breaks it. -/

namespace TenantBilling

open Calendar

/-! ## Subscriptions and catalogs -/

/-- An event that fits the catalog: a subscription to the default plan has no id, and one to
another plan has one. -/
def EventKind.Fits (s : Store) : EventKind → Prop
  | .subscription e => Reconcile.effectOf e.status = .live →
    ∀ plan, s.planOfProduct? e.productId = some plan →
      (plan.isDefault = true ↔ e.subscriptionId = "")
  | _ => True

namespace Store
variable {s t : Store} {plan : Plan} {sub : Subscription}

theorem defaultIds_eq (plans : List Plan) :
    Health.defaultIds plans = ((plans.map offer).filter (·.2.2)).map (·.1) := by
  unfold Health.defaultIds
  rw [List.filter_map, List.map_map]
  rfl

theorem SameCatalog.defaultIds (h : s.SameCatalog t) (hs : s.Sound) (ht : t.Sound) :
    Health.defaultIds t.plans.values = Health.defaultIds s.plans.values := by
  rw [defaultIds_eq, defaultIds_eq, h.offers hs ht]

theorem SameCatalog.known (h : s.SameCatalog t) (hs : s.Sound) (ht : t.Sound) {id : Int}
    (known : ∃ p ∈ s.plans.values, p.id = id) : ∃ p ∈ t.plans.values, p.id = id := by
  obtain ⟨p, hp, hid⟩ := known
  have hoffer : offer p ∈ t.plans.values.map offer := by
    rw [h.offers hs ht]
    exact List.mem_map_of_mem hp
  obtain ⟨q, hq, same⟩ := List.mem_map.mp hoffer
  exact ⟨q, hq, (congrArg (·.1) same).trans hid⟩

/-- Whether a subscription makes sense depends on what an event can tell of the catalog. -/
theorem SameCatalog.sane (h : s.SameCatalog t) (hs : s.Sound) (ht : t.Sound)
    (sane : sub.Sane s.plans.values) : sub.Sane t.plans.values := by
  refine ⟨fun assigned => h.known hs ht (sane.known assigned), ?_, ?_⟩
  · rw [h.defaultIds hs ht]
    exact sane.unbilled
  · rw [h.defaultIds hs ht]
    exact sane.billed

theorem SameCatalog.fits (h : s.SameCatalog t) (hs : s.Sound) (ht : t.Sound) {kind : EventKind}
    (fits : kind.Fits s) : kind.Fits t := by
  cases kind with
  | subscription e =>
    intro live plan sold
    have found (u : Store) : (u.planOfProduct? e.productId).map offer =
        (u.plans.values.map offer).find? fun x => x.2.1 == e.productId := by
      rw [List.find?_map]
      rfl
    have same := found s
    rw [← h.offers hs ht, ← found t, sold, Option.map_some] at same
    obtain ⟨plan', sold', hoffer⟩ := Option.map_eq_some_iff.mp same
    have hdefault : plan'.isDefault = plan.isDefault := congrArg (·.2.2) hoffer
    rw [← hdefault]
    exact fits live plan' sold'
  | _ => trivial

theorem mem_defaultIds_iff (hs : s.Sound) (hp : plan ∈ s.plans.values) :
    plan.id ∈ Health.defaultIds s.plans.values ↔ plan.isDefault = true := by
  rw [Health.mem_defaultIds]
  constructor
  · rintro ⟨q, hq, hdefault, hid⟩
    obtain ⟨k, hk⟩ := (Table.mem_values_iff _ _).mp hp
    obtain ⟨j, hj⟩ := (Table.mem_values_iff _ _).mp hq
    rw [← hs.plan k plan hk] at hk
    rw [← hs.plan j q hj, hid, hk] at hj
    obtain rfl := Option.some.inj hj
    exact hdefault
  · intro hdefault
    exact ⟨plan, hp, hdefault, rfl⟩

/-- A live subscription makes sense when the event that said so fits. -/
theorem sane_live_iff (hs : s.Sound) (hp : plan ∈ s.plans.values) (hplan : sub.planId = plan.id)
    (active : sub.active = true) :
    sub.Sane s.plans.values ↔ (plan.isDefault = true ↔ sub.providerId = "") := by
  have free := mem_defaultIds_iff hs hp
  rw [← hplan] at free
  have assigned : sub.hasPlan = true := by
    obtain ⟨k, hk⟩ := (Table.mem_values_iff _ _).mp hp
    have hne := (hs.planId k plan hk).1
    rw [← hs.plan k plan hk, ← hplan] at hne
    exact Subscription.hasPlan_iff.mpr hne
  have unbilled := Subscription.hasProvider_eq_false_iff (s := sub)
  constructor
  · intro sane
    constructor
    · intro hdefault
      exact unbilled.mp (sane.unbilled (free.mpr hdefault))
    · intro hnone
      by_cases hdefault : plan.isDefault = true
      · exact hdefault
      · have billed := sane.billed active assigned fun hfree => hdefault (free.mp hfree)
        rw [unbilled.mpr hnone] at billed
        cases billed
  · intro fits
    refine ⟨fun _ => ⟨plan, hp, hplan.symm⟩, fun hfree => ?_, fun _ _ sold => ?_⟩
    · exact unbilled.mpr (fits.mp (free.mp hfree))
    · cases hprovider : sub.hasProvider with
      | true => rfl
      | false => exact absurd (free.mpr (fits.mpr (unbilled.mp hprovider))) sold

/-- The default plan without a subscription makes sense. -/
theorem sane_default (hs : s.Sound) (fallback : s.defaultPlan? = some plan) (now : DateTime)
    (previous : Subscription) :
    (Reconcile.defaultSubscription plan now previous).Sane s.plans.values := by
  obtain ⟨hp, hdefault⟩ := defaultPlan?_some fallback
  exact (sane_live_iff hs hp rfl rfl).mpr ⟨fun _ => rfl, fun _ => hdefault⟩

/-- A store of which a health report says that it is healthy. -/
structure Healthy (s : Store) : Prop where
  catalog : (Health.defaultIds s.plans.values).length = 1
  records : ∀ a org, s.organization? a = some org → org.subscription.Sane s.plans.values

theorem healthy_iff (checkedAt : DateTime) :
    (Health.summarize checkedAt s.plans.values s.organizations.values).healthy = true ↔
      s.Healthy := by
  rw [Health.healthy_iff]
  constructor
  · rintro ⟨catalog, records⟩
    exact ⟨catalog, fun a org stored =>
      records org ((Table.mem_values_iff _ _).mpr ⟨a, stored⟩)⟩
  · intro healthy
    refine ⟨healthy.catalog, fun org horg => ?_⟩
    obtain ⟨a, stored⟩ := (Table.mem_values_iff _ _).mp horg
    exact healthy.records a org stored

/-- Organizations that were never subscribed are no harm. -/
theorem Healthy.of_blank (hs : s.Sound) (catalog : (Health.defaultIds s.plans.values).length = 1)
    (blank : ∀ org ∈ s.organizations.values, org.subscription = .blank) : s.Healthy := by
  refine ⟨catalog, fun a org stored => ?_⟩
  rw [blank org ((Table.mem_values_iff _ _).mpr ⟨a, stored⟩)]
  refine ⟨nofun, fun free => ?_, nofun⟩
  obtain ⟨p, hp, -, hid⟩ := Health.mem_defaultIds.mp free
  obtain ⟨k, hk⟩ := (Table.mem_values_iff _ _).mp hp
  exact absurd ((hs.plan k p hk).symm.trans hid) (hs.planId k p hk).1

/-- A store with the same catalog is healthy if its records make sense. -/
theorem Healthy.of_records (h : s.Healthy) (catalog : s.SameCatalog t) (hs : s.Sound)
    (ht : t.Sound)
    (records : ∀ a org, t.organization? a = some org → org.subscription.Sane s.plans.values) :
    t.Healthy := by
  refine ⟨?_, fun a org stored => catalog.sane hs ht (records a org stored)⟩
  rw [catalog.defaultIds hs ht]
  exact h.catalog

end Store

/-! ## What an event does to health -/

section Events
variable {s t : Store} {now : DateTime} {p : Provider} {id : Uuid} {kind : EventKind}

/-- What an event makes of a subscription makes sense when the event fits. -/
theorem Amends.sane_iff {sub sub' : Subscription} (hs : s.Sound)
    (amends : Amends s now p sub kind sub') (sane : sub.Sane s.plans.values) :
    sub'.Sane s.plans.values ↔ kind.Fits s := by
  have live_iff {e : SubscriptionEvent} {plan : Plan} {sub : Subscription}
      (live : Reconcile.effectOf e.status = .live) (sold : s.planOfProduct? e.productId = some plan)
      (hplan : sub.planId = plan.id) (hprovider : sub.providerId = e.subscriptionId)
      (active : sub.active = true) :
      sub.Sane s.plans.values ↔ (EventKind.subscription e).Fits s := by
    rw [Store.sane_live_iff hs (Store.planOfProduct?_some sold).1 hplan active, hprovider]
    constructor
    · intro fits _ plan' sold'
      obtain rfl := Option.some.inj (sold.symm.trans sold')
      exact fits
    · exact fun fits => fits live plan sold
  cases amends with
  | heeded heeds =>
    cases kind with
    | subscription e =>
      by_cases live : Reconcile.effectOf e.status = .live
      · simp only [Heeds, live] at heeds
        obtain ⟨plan, sold, agrees⟩ := heeds
        simp only [Subscription.agrees, Reconcile.liveSubscription, Bool.and_eq_true,
          beq_iff_eq] at agrees
        obtain ⟨⟨⟨⟨⟨⟨⟨hplan, hprovider⟩, -⟩, -⟩, -⟩, -⟩, hactive⟩, -⟩ := agrees
        exact live_iff live sold hplan.symm hprovider.symm hactive.symm
      · exact ⟨fun _ h => absurd h live, fun _ => sane⟩
    | _ => exact ⟨fun _ => trivial, fun _ => sane⟩
  | begun live sold => exact live_iff live sold rfl rfl rfl
  | ended ended fallback =>
    refine ⟨fun _ live => ?_, fun _ => Store.sane_default hs fallback _ _⟩
    rw [ended] at live
    cases live
  | paid => exact ⟨fun _ => trivial, fun _ => ⟨sane.known, sane.unbilled, sane.billed⟩⟩

namespace Delivery

/-- An event that is settled leaves a healthy store healthy when it fits. -/
theorem settle_healthy_iff (hs : s.Sound) (healthy : s.Healthy)
    (h : settle s now p id kind = .ok t) : t.Healthy ↔ kind.Fits s := by
  have keeps := settle_keeps hs h
  cases hk : kind.address? with
  | none =>
    have same := settle_organizations hs hk h
    constructor
    · intro _
      cases kind with
      | subscription => cases hk
      | _ => trivial
    · intro _
      refine healthy.of_records keeps.catalog hs keeps.sound fun a org stored => ?_
      unfold Store.organization? at stored
      rw [same] at stored
      exact healthy.records a org stored
  | some address =>
    obtain ⟨org, org', stored, stored', amends⟩ := settle_amends hs hk h
    have sane_iff := amends.sane_iff hs (healthy.records _ _ stored)
    constructor
    · intro healthy'
      exact sane_iff.mp (keeps.catalog.symm.sane keeps.sound hs (healthy'.records _ _ stored'))
    · intro fits
      refine healthy.of_records keeps.catalog hs keeps.sound fun a o ho => ?_
      by_cases ha : a = address
      · rw [ha, stored'] at ho
        obtain rfl := Option.some.inj ho
        exact sane_iff.mpr fits
      · rw [keeps.others a fun h => ha (Option.some.inj (hk.symm.trans h)).symm] at ho
        exact healthy.records a o ho

variable {mayFail : Prop} {a b : Scene} {event : Event} {r : Except Failure DeliveryOutcome}

theorem keeps_of_half {e : SubscriptionEvent} {f : Failure} (hs : a.store.Sound)
    (half : HalfApplied mayFail a e f t) : Store.Keeps (.subscription e) a.store t := by
  obtain ⟨-, -, -, -, org, plan, stored, -, rfl⟩ := half
  have hk : (EventKind.subscription e).address? = some org.address :=
    congrArg some (hs.organization _ _ stored).symm
  exact Store.keeps_assign hs hk _

/-- Handling an event keeps the catalog and the records of others, however it ends. -/
theorem Handled.keeps (hs : a.store.Sound) (h : Handled mayFail event a r b) :
    Store.Keeps event.kind a.store b.store := by
  rcases h.store_cases hs with same | ⟨id, done⟩ | ⟨e, f, hk, half⟩
  · rw [same]
    exact .refl hs _
  · exact settle_keeps hs done
  · exact hk ▸ keeps_of_half hs half

/-- Handling an event that fits keeps a store healthy, however it ends. -/
theorem Handled.healthy (hs : a.store.Sound) (healthy : a.store.Healthy)
    (fits : event.kind.Fits a.store) (h : Handled mayFail event a r b) : b.store.Healthy := by
  rcases h.store_cases hs with same | ⟨id, done⟩ | ⟨e, f, hk, half⟩
  · exact same ▸ healthy
  · exact (settle_healthy_iff hs healthy done).mpr fits
  · -- what a half applied event wrote is what a settled one writes
    obtain ⟨t', done, same⟩ := half.settle default
    have whole := (settle_healthy_iff hs healthy done).mpr (hk ▸ fits)
    have keeps := keeps_of_half hs half
    have keeps' := settle_keeps hs done
    refine healthy.of_records keeps.catalog hs keeps.sound fun x o ho => ?_
    unfold Store.organization? at ho
    rw [← same] at ho
    exact keeps'.catalog.symm.sane keeps'.sound hs (whole.records x o ho)

/-- An event that was taken in leaves a healthy store healthy when it fits. -/
theorem Handled.healthy_iff (hs : a.store.Sound) (healthy : a.store.Healthy)
    (h : Handled mayFail event a (.ok .processed) b) :
    b.store.Healthy ↔ event.kind.Fits a.store := by
  cases h with
  | processed _ kind work same =>
    obtain ⟨id, done⟩ := work.settled hs kind
    rw [same]
    exact settle_healthy_iff hs healthy done

end Delivery

end Events

/-! ## Runs of deliveries -/

namespace World
variable {w u : World} {op : Operation} {ops : List Operation}

/-- A health report on the store can be made, and says that it is healthy. -/
def ReportsHealthy (w : World) : Prop :=
  ∃ summary, (w.answering.run Health.inspect).1 = .ok summary ∧ summary.healthy = true

/-- What a health report says when the store answers. -/
theorem run_inspect (pool : w.poolClosed = false) :
    (w.answering.run Health.inspect).1 =
      .ok (Health.summarize w.now w.store.plans.values w.store.organizations.values) :=
  (run_load w.answering fun x => Health.summarize w.now x.1 x.2).2 (open_answering pool)

/-- A report on a store without its database fails. -/
theorem inspect_of_poolClosed (pool : w.poolClosed = true) :
    ∃ f, (w.answering.run Health.inspect).1 = .error f :=
  run_load_of_poolClosed (w := w.answering) pool fun x => pure (Health.summarize w.now x.1 x.2)

theorem reportsHealthy_iff : w.ReportsHealthy ↔ w.poolClosed = false ∧ w.store.Healthy := by
  cases pool : w.poolClosed with
  | true =>
    obtain ⟨f, hf⟩ := inspect_of_poolClosed pool
    refine ⟨fun ⟨summary, ok, _⟩ => ?_, fun h => nomatch h.1⟩
    rw [hf] at ok
    cases ok
  | false =>
    have report := run_inspect pool
    constructor
    · rintro ⟨summary, ok, healthy⟩
      rw [report] at ok
      obtain rfl := Except.ok.inj ok
      exact ⟨rfl, (Store.healthy_iff _).mp healthy⟩
    · intro h
      exact ⟨_, report, (Store.healthy_iff _).mpr h.2⟩

/-- A delivery keeps the catalog. -/
theorem delivery_keeps (hop : op.IsDelivery) (hs : w.store.Sound) :
    (w.step op).2.store.Sound ∧ w.store.SameCatalog (w.step op).2.store := by
  cases he : w.event? op with
  | none =>
    rw [store_of_event?_none hop he]
    exact ⟨hs, .refl _⟩
  | some event =>
    rw [step_of_event? he]
    cases hrun : w.run (Delivery.handle event) with
    | mk r u =>
      rcases handled hrun with ⟨-, handled⟩ | ⟨-, rfl⟩
      · exact ⟨(handled.keeps hs).sound, (handled.keeps hs).catalog⟩
      · exact ⟨hs, .refl _⟩

theorem deliveries_keep (hops : ∀ op ∈ ops, op.IsDelivery) (hs : w.store.Sound) :
    (w.after ops).store.Sound ∧ w.store.SameCatalog (w.after ops).store := by
  refine after_keeps (fun u => u.store.Sound ∧ w.store.SameCatalog u.store) ?_ ⟨hs, .refl _⟩
  intro u op hop hu
  obtain ⟨sound, catalog⟩ := delivery_keeps (hops op hop) hu.1
  exact ⟨sound, hu.2.trans catalog⟩

/-- A delivery keeps the store healthy if its event fits. -/
theorem delivery_healthy (hop : op.IsDelivery) (hs : w.store.Sound) (healthy : w.ReportsHealthy)
    (fits : ∀ event, w.event? op = some event → event.kind.Fits w.store) :
    (w.step op).2.ReportsHealthy := by
  obtain ⟨pool, healthy⟩ := reportsHealthy_iff.mp healthy
  refine reportsHealthy_iff.mpr ⟨(pool_step w op).trans pool, ?_⟩
  cases he : w.event? op with
  | none =>
    rw [store_of_event?_none hop he]
    exact healthy
  | some event =>
    rw [step_of_event? he]
    cases hrun : w.run (Delivery.handle event) with
    | mk r u =>
      rcases handled hrun with ⟨-, handled⟩ | ⟨-, rfl⟩
      · exact handled.healthy hs healthy (fits event he)
      · exact healthy

/-- A delivery that takes its event in keeps the store healthy only if the event fits. -/
theorem delivery_healthy_iff {event : Event} (hs : w.store.Sound) (healthy : w.ReportsHealthy)
    (he : w.event? op = some event) (processed : (w.step op).1 = .delivery (.ok .processed)) :
    (w.step op).2.ReportsHealthy ↔ event.kind.Fits w.store := by
  obtain ⟨pool, healthy⟩ := reportsHealthy_iff.mp healthy
  rw [reportsHealthy_iff, pool_step, step_of_event? he]
  rw [step_of_event? he] at processed
  cases hrun : w.run (Delivery.handle event) with
  | mk r u =>
    rw [hrun] at processed
    obtain rfl : r = .ok .processed := Reply.delivery.inj processed
    rcases handled hrun with ⟨-, handled⟩ | ⟨⟨f, hf⟩, -⟩
    · exact ⟨fun h => (handled.healthy_iff hs healthy).mp h.2,
        fun h => ⟨pool, (handled.healthy_iff hs healthy).mpr h⟩⟩
    · cases hf

theorem healthy_after (hops : ∀ op ∈ ops, op.IsDelivery) (hs : w.store.Sound)
    (healthy : w.ReportsHealthy)
    (fits : ∀ event ∈ w.delivered ops, event.kind.Fits w.store) :
    (w.after ops).ReportsHealthy := by
  induction ops generalizing w with
  | nil => exact healthy
  | cons op ops ih =>
    have hop := hops op List.mem_cons_self
    obtain ⟨sound, catalog⟩ := delivery_keeps hop hs
    rw [delivered_cons] at fits
    refine ih (fun o ho => hops o (List.mem_cons_of_mem _ ho)) sound
      (delivery_healthy hop hs healthy fun event he => ?_) fun event hevent => ?_
    · refine fits event (List.mem_append_left _ ?_)
      rw [he]
      exact List.mem_cons_self
    · exact catalog.fits hs sound (fits event (List.mem_append_right _ hevent))

/-- A run of deliveries, at whatever times and with whatever failures, keeps a healthy store
healthy throughout if every event of it fits the catalog. Nor is it healthy after the delivery of
an event that does not fit and was taken in. -/
theorem deliveries_keep_health (hops : ∀ op ∈ ops, op.IsDelivery) (sound : w.store.Sound)
    (healthy : w.ReportsHealthy) :
    ((∀ event ∈ w.delivered ops, event.kind.Fits w.store) →
      ∀ past rest, ops = past ++ rest → (w.after past).ReportsHealthy) ∧
    ∀ past op rest event, ops = past ++ op :: rest → (w.after past).ReportsHealthy →
      (w.after past).event? op = some event →
      ((w.after past).step op).1 = .delivery (.ok .processed) →
      ((w.after (past ++ [op])).ReportsHealthy ↔ event.kind.Fits w.store) := by
  constructor
  · intro fits past rest hsplit
    subst hsplit
    refine healthy_after (fun op hop => hops op (List.mem_append_left _ hop)) sound healthy ?_
    intro event hevent
    refine fits event ?_
    rw [delivered_append]
    exact List.mem_append_left _ hevent
  · intro past op rest event hsplit healthy' he processed
    subst hsplit
    obtain ⟨sound', catalog⟩ :=
      deliveries_keep (fun o ho => hops o (List.mem_append_left _ ho)) sound
    rw [after_append]
    refine (delivery_healthy_iff sound' healthy' he processed).trans ?_
    constructor
    · intro fits
      exact catalog.symm.fits sound' sound fits
    · intro fits
      exact catalog.fits sound sound' fits

theorem sample_healthy : sample.ReportsHealthy :=
  reportsHealthy_iff.mpr ⟨rfl, .of_blank Store.sample_sound (by decide +kernel) (by decide +kernel)⟩

/-- A subscription to a plan that is sold, and a payment for it. -/
theorem healthy_after_payment :
    (sample.after [.deliver sampleSubscribed, .deliver samplePayment]).ReportsHealthy := by
  have hops : ∀ op ∈ [Operation.deliver sampleSubscribed, .deliver samplePayment],
      op.IsDelivery := by
    intro op hop
    simp only [List.mem_cons, List.not_mem_nil, or_false] at hop
    rcases hop with rfl | rfl <;> trivial
  have delivered : sample.delivered [.deliver sampleSubscribed, .deliver samplePayment] =
      [sampleSubscribed, samplePayment] := rfl
  have sold : (sample.store.planOfProduct? "prod_pro").map (·.isDefault) = some false := by
    decide +kernel
  have healthy := (deliveries_keep_health (w := sample) hops Store.sample_sound sample_healthy).1
  refine healthy ?_ _ [] (List.append_nil _).symm
  rw [delivered]
  intro event hevent
  simp only [List.mem_cons, List.not_mem_nil, or_false] at hevent
  rcases hevent with rfl | rfl
  · intro _ plan hplan
    have hproduct : sample.store.planOfProduct? "prod_pro" = some plan := hplan
    rw [hproduct] at sold
    have hpaid : plan.isDefault = false := Option.some.inj sold
    rw [hpaid]
    exact ⟨nofun, nofun⟩
  · trivial

/-- The default plan can be subscribed to as any other plan can, and a subscription to it breaks
the health of the store. -/
theorem unhealthy_after_free_subscription :
    let store := (Store.sample.setPlan { (default : Plan) with
      id := 1, name := "Free", productId := "prod_free", isDefault := true }).1
    let subscribed : Event := ⟨"evt_a", "customer.subscription.created", 0, .subscription
      { sampleSubscription with productId := "prod_free", period := .monthly }⟩
    (sample.withStore store).ReportsHealthy ∧
      ((sample.withStore store).step (.deliver subscribed)).1 = .delivery (.ok .processed) ∧
      ¬((sample.withStore store).after [.deliver subscribed]).ReportsHealthy := by
  intro store subscribed
  have sound : (sample.withStore store).store.Sound := Store.sample_sound.setPlan _
  have healthy : (sample.withStore store).ReportsHealthy :=
    reportsHealthy_iff.mpr ⟨rfl, .of_blank sound (by decide +kernel) (by decide +kernel)⟩
  have answer : ((sample.withStore store).run (Delivery.handle subscribed)).1 = .ok .processed := by
    decide +kernel
  have handled : (sample.withStore store).event? (.deliver subscribed) = some subscribed := rfl
  have processed : ((sample.withStore store).step (.deliver subscribed)).1 =
      .delivery (.ok .processed) := by
    rw [step_of_event? handled, Prod.map_fst, answer]
  refine ⟨healthy, processed, fun healthy' => ?_⟩
  have fits := (delivery_healthy_iff sound healthy handled processed).mp healthy'
  have sold : store.planOfProduct? "prod_free" = some { (default : Plan) with
      id := 1, name := "Free", productId := "prod_free", isDefault := true } := by decide +kernel
  exact absurd ((fits rfl _ sold).mp rfl) (by decide)

end World

end TenantBilling
