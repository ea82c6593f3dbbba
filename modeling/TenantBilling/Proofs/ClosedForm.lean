import TenantBilling.Proofs.Atomicity
import TenantBilling.Proofs.Record

/-! The record of a tenant after any run of deliveries, in closed form. Events of other tenants
and changes of the catalog do not touch it, and its own events make of it what they say. -/

namespace TenantBilling

open Calendar

/-! ## What an event keeps -/

/-- A plan brought up to date keeps its id, its product and its standing. -/
theorem planOfProduct_ok {plan refreshed : Plan} {product : Product} {prices : List Price}
    (h : planOfProduct plan product prices = .ok refreshed) :
    refreshed.id = plan.id ∧ refreshed.productId = plan.productId ∧
      refreshed.isDefault = plan.isDefault := by
  simp only [planOfProduct, planOfProductWith, mapError_eq_ok_iff, Plan.refresh,
    bind_eq_ok_iff] at h
  obtain ⟨_, -, _, -, _, -, h⟩ := h
  cases h
  exact ⟨rfl, rfl, rfl⟩

namespace Store
variable {s : Store} {org : Organization} {kind : EventKind}

/-- What an event keeps in a store: the catalog, and every organization but its own. -/
structure Keeps (kind : EventKind) (s t : Store) : Prop where
  sound : t.Sound
  catalog : s.SameCatalog t
  others : ∀ a, kind.address? ≠ some a → t.organization? a = s.organization? a

theorem Keeps.refl (hs : s.Sound) (kind : EventKind) : Keeps kind s s :=
  ⟨hs, .refl s, fun _ _ => rfl⟩

theorem keeps_put (hs : s.Sound) (hk : kind.address? = some org.address)
    (subscription : Subscription) : Keeps kind s (s.putSubscription org subscription) := by
  refine ⟨hs.putSubscription _, .refl s, fun a ha => Table.get?_insert_of_ne _ _ fun h => ha ?_⟩
  rw [hk, h]

theorem keeps_assign (hs : s.Sound) (hk : kind.address? = some org.address)
    (subscription : Subscription) : Keeps kind s (s.assign org subscription) := by
  unfold assign
  split
  · exact .refl hs kind
  · exact keeps_put hs hk subscription

theorem withBaseline_keeps {t : Store} (h : Keeps kind s t) (org : Organization) (now : DateTime)
    (id : Uuid) : Keeps kind s (t.withBaseline org now id) := by
  unfold withBaseline
  split
  · exact h
  · refine ⟨h.sound.openSnapshot _, ?_, ?_⟩
    · unfold openSnapshot
      split <;> exact h.catalog
    · unfold openSnapshot
      split <;> exact h.others

theorem keeps_live (hs : s.Sound) (hk : kind.address? = some org.address) (now : DateTime)
    (id : Uuid) (e : SubscriptionEvent) (subscription : Subscription) :
    Keeps kind s (Reconcile.liveStore s now id org e subscription) := by
  unfold Reconcile.liveStore
  split
  · exact withBaseline_keeps (keeps_assign hs hk _) _ _ _
  · exact keeps_assign hs hk _

theorem keeps_plan (hs : s.Sound) {plan refreshed : Plan} {product : Product}
    {prices : List Price} (hplan : plan ∈ s.plans.values)
    (h : planOfProduct plan product prices = .ok refreshed) :
    Keeps kind s (s.setPlan refreshed).1 := by
  obtain ⟨k, hk⟩ := (Table.mem_values_iff _ _).mp hplan
  obtain ⟨hid, hproduct, hdefault⟩ := planOfProduct_ok h
  have hplanid := hs.plan k plan hk
  have hne : refreshed.id ≠ 0 := by
    rw [hid, hplanid]
    exact (hs.planId k plan hk).1
  refine ⟨hs.setPlan refreshed, fun j => ?_, fun a _ => ?_⟩
  · unfold setPlan
    rw [if_neg hne]
    simp only [Table.get?_insert]
    split
    · rename_i hj
      rw [hj, hid, hplanid, hk, Option.map_some, Option.map_some, hproduct, hdefault]
    · rfl
  · unfold setPlan
    rw [if_neg hne]
    rfl

end Store

/-! ## What an event does -/

/-- The end of a subscription changes nothing for an organization whose record it spares. -/
theorem Reconcile.settleEnded_of_spares {s : Store} {now : DateTime} {org : Organization}
    {plan : Plan} {subscriptionId : String} (fallback : s.defaultPlan? = some plan)
    (spares : Phase.Spares org.subscription plan subscriptionId) :
    settleEnded s now org subscriptionId = .ok (.unchanged, s) := by
  unfold settleEnded
  rw [fallback]
  rcases spares with other | ⟨unbilled, assigned⟩
  · rw [if_pos (isStale_iff.mpr other)]
  · simp [isStale, Subscription.hasProvider_eq_false_iff.mpr unbilled, assigned]

namespace Delivery
variable {s t : Store} {now : DateTime} {p : Provider} {id : Uuid}

/-- How the end of a subscription is settled. -/
theorem settleEnded_ok {org : Organization} {subscriptionId : String} {outcome : Outcome}
    (h : Reconcile.settleEnded s now org subscriptionId = .ok (outcome, t)) :
    (Reconcile.isStale org.subscription subscriptionId = true ∧ t = s) ∨
      ∃ plan, s.defaultPlan? = some plan ∧
        ((Phase.Spares org.subscription plan subscriptionId ∧ t = s) ∨
          (¬Phase.Spares org.subscription plan subscriptionId ∧ t = s.putSubscription org
            (Reconcile.defaultSubscription plan now org.subscription))) := by
  have settled {planId : Int} : (!org.subscription.hasProvider && org.subscription.planId == planId)
      = true ↔ org.subscription.providerId = "" ∧ org.subscription.planId = planId := by
    rw [Bool.and_eq_true, Bool.not_eq_true', Subscription.hasProvider_eq_false_iff, beq_iff_eq]
  unfold Reconcile.settleEnded at h
  split at h
  · rename_i stale
    cases h
    exact Or.inl ⟨stale, rfl⟩
  · rename_i live
    split at h
    · cases h
    · rename_i plan hplan
      refine Or.inr ⟨plan, hplan, ?_⟩
      split at h
      · rename_i done
        cases h
        exact Or.inl ⟨Or.inr (settled.mp done), rfl⟩
      · rename_i counts
        cases h
        refine Or.inr ⟨fun spared => ?_, rfl⟩
        exact spared.elim (fun other => live (Reconcile.isStale_iff.mpr other))
          fun same => counts (settled.mpr same)

/-- How a subscription event is settled. -/
theorem settle_subscription_ok {e : SubscriptionEvent}
    (h : settle s now p id (.subscription e) = .ok t) :
    ∃ org, s.organization? e.address = some org ∧
      ((Reconcile.effectOf e.status = .live ∧ ∃ plan, s.planOfProduct? e.productId = some plan ∧
          t = Reconcile.liveStore s now id org e
            (Reconcile.liveSubscription e plan org.subscription (p.resolve e.customer))) ∨
        (Reconcile.effectOf e.status = .ended ∧ ∃ outcome,
          Reconcile.settleEnded s now org e.subscriptionId = .ok (outcome, t)) ∨
        (Reconcile.effectOf e.status = .nothing ∧ t = s)) := by
  simp only [settle, Reconcile.settleSubscription] at h
  cases horg : s.organization? e.address with
  | none =>
    rw [horg] at h
    cases h
  | some org =>
    rw [horg] at h
    refine ⟨org, rfl, ?_⟩
    cases he : Reconcile.effectOf e.status with
    | live =>
      rw [he] at h
      simp only [Reconcile.settleLive] at h
      cases hplan : s.planOfProduct? e.productId with
      | none =>
        rw [hplan] at h
        cases h
      | some plan =>
        rw [hplan] at h
        exact Or.inl ⟨rfl, plan, rfl, (Except.ok.inj h).symm⟩
    | ended =>
      rw [he] at h
      dsimp only at h
      cases hx : Reconcile.settleEnded s now org e.subscriptionId with
      | error b =>
        rw [hx] at h
        cases h
      | ok x =>
        rw [hx] at h
        cases h
        exact Or.inr (Or.inl ⟨rfl, x.1, rfl⟩)
    | nothing =>
      rw [he] at h
      exact Or.inr (Or.inr ⟨rfl, (Except.ok.inj h).symm⟩)

/-- How a payment is settled. -/
theorem settle_invoice_ok {e : InvoiceEvent} (h : settle s now p id (.invoice e) = .ok t) :
    ∃ org, s.organization? e.address = some org ∧
      ((sameMoment org.subscription.lastPaymentDate (some e.effectiveAt) = true ∧ t = s) ∨
        t = s.putSubscription org
          { org.subscription with lastPaymentDate := some e.effectiveAt }) := by
  simp only [settle, Reconcile.settleInvoice] at h
  cases horg : s.organization? e.address with
  | none =>
    rw [horg] at h
    cases h
  | some org =>
    rw [horg] at h
    refine ⟨org, rfl, ?_⟩
    dsimp only at h
    split at h
    · rename_i same
      cases h
      exact Or.inl ⟨same, rfl⟩
    · cases h
      exact Or.inr rfl

/-- How a change of a product is settled. -/
theorem settle_product_ok {e : ProductEvent} (h : settle s now p id (.product e) = .ok t) :
    (s.planOfProduct? e.productId = none ∧ t = s) ∨
      ∃ plan offer refreshed, s.planOfProduct? e.productId = some plan ∧
        p.offer e.productId = .ok offer ∧ planOfProduct plan offer.1 offer.2 = .ok refreshed ∧
        ((refreshed = plan ∧ t = s) ∨ t = (s.setPlan refreshed).1) := by
  simp only [settle, Reconcile.settleProduct] at h
  cases hplan : s.planOfProduct? e.productId with
  | none =>
    rw [hplan] at h
    cases h
    exact Or.inl ⟨rfl, rfl⟩
  | some plan =>
    rw [hplan] at h
    dsimp only [bind, Except.bind] at h
    cases hoffer : p.offer e.productId with
    | error b =>
      rw [hoffer] at h
      cases h
    | ok offer =>
      rw [hoffer] at h
      dsimp only at h
      cases hrefreshed : planOfProduct plan offer.1 offer.2 with
      | error b =>
        rw [hrefreshed] at h
        cases h
      | ok refreshed =>
        rw [hrefreshed] at h
        dsimp only at h
        refine Or.inr ⟨plan, offer, refreshed, rfl, rfl, hrefreshed, ?_⟩
        split at h
        · rename_i same
          cases h
          exact Or.inl ⟨same, rfl⟩
        · cases h
          exact Or.inr rfl

theorem settle_keeps {kind : EventKind} (hs : s.Sound) (h : settle s now p id kind = .ok t) :
    Store.Keeps kind s t := by
  cases kind with
  | subscription e =>
    obtain ⟨org, horg, ⟨-, plan, -, rfl⟩ | ⟨-, outcome, hended⟩ | ⟨-, rfl⟩⟩ :=
      settle_subscription_ok h
    all_goals
      have hk : (EventKind.subscription e).address? = some org.address :=
        congrArg some (hs.organization _ _ horg).symm
    · exact Store.keeps_live hs hk _ _ _ _
    · rcases settleEnded_ok hended with ⟨-, rfl⟩ | ⟨plan, -, ⟨-, rfl⟩ | ⟨-, rfl⟩⟩
      · exact .refl hs _
      · exact .refl hs _
      · exact Store.keeps_put hs hk _
    · exact .refl hs _
  | invoice e =>
    obtain ⟨org, horg, ⟨-, rfl⟩ | rfl⟩ := settle_invoice_ok h
    · exact .refl hs _
    · have hk : (EventKind.invoice e).address? = some org.address :=
        congrArg some (hs.organization _ _ horg).symm
      exact Store.keeps_put hs hk _
  | product e =>
    rcases settle_product_ok h with
      ⟨-, rfl⟩ | ⟨plan, offer, refreshed, hplan, -, hrefreshed, ⟨-, rfl⟩ | rfl⟩
    · exact .refl hs _
    · exact .refl hs _
    · exact Store.keeps_plan hs (Store.planOfProduct?_some hplan).1 hrefreshed
  | unhandled =>
    cases h
    exact .refl hs _

theorem organization?_live {org : Organization} (h : s.organization? org.address = some org)
    (now : DateTime) (id : Uuid) (e : SubscriptionEvent) (subscription : Subscription) :
    ∃ org',
      (Reconcile.liveStore s now id org e subscription).organization? org.address = some org' ∧
      org'.subscription = if subscription.agrees org.subscription then org.subscription
        else subscription := by
  have hsame : (Reconcile.liveStore s now id org e subscription).organization? org.address =
      (s.assign org subscription).organization? org.address :=
    congrArg (Table.get? · org.address) (Reconcile.liveStore_organizations _ _ _ _ _ _)
  rw [hsame]
  unfold Store.assign
  split
  · exact ⟨org, h, rfl⟩
  · exact ⟨_, Table.get?_insert_self _ _ _, rfl⟩

/-- An event of a tenant makes of its record what it says. -/
theorem settle_told {initial : Store} {kind : EventKind} {first : Subscription} {plan : Plan}
    {past : List Occurrence} {org : Organization} (hs : s.Sound) (hinitial : initial.Sound)
    (catalog : initial.SameCatalog s) (orderly : initial.Orderly plan)
    (named : ∀ e, kind = .subscription e → e.subscriptionId ≠ "")
    (hk : kind.address? = some org.address) (stored : s.organization? org.address = some org)
    (told : Says initial first plan past org.subscription)
    (h : settle s now p id kind = .ok t) :
    ∃ org', t.organization? org.address = some org' ∧
      Says initial first plan (past ++ [⟨kind, now⟩]) org'.subscription := by
  cases kind with
  | subscription e =>
    have haddress : e.address = org.address := Option.some.inj hk
    obtain ⟨o, ho, hsettled⟩ := settle_subscription_ok h
    rw [haddress, stored] at ho
    obtain rfl := Option.some.inj ho
    rcases hsettled with ⟨live, sold, hsold, rfl⟩ | ⟨ended, outcome, hsettled⟩ | ⟨nothing, rfl⟩
    · obtain ⟨org', horg', hsub⟩ := organization?_live stored now id e
        (Reconcile.liveSubscription e sold org.subscription (p.resolve e.customer))
      obtain ⟨q, hq, hid⟩ := catalog.sold hinitial hs hsold
      exact ⟨org', horg', hsub ▸ told.live live (named e rfl) hq hid⟩
    · have hended := told.ended now ended
      rcases settleEnded_ok hsettled with ⟨stale, rfl⟩ | ⟨fallback, hplan, hcases⟩
      · exact ⟨org, stored, hended.1 (Or.inl (Reconcile.isStale_iff.mp stale))⟩
      · have hid := catalog.default hinitial hs orderly hplan
        have hspares : Phase.Spares org.subscription fallback e.subscriptionId ↔
            Phase.Spares org.subscription plan e.subscriptionId := by
          unfold Phase.Spares
          rw [hid]
        rcases hcases with ⟨spared, rfl⟩ | ⟨counts, rfl⟩
        · exact ⟨org, stored, hended.1 (hspares.mp spared)⟩
        · have hdefault : Reconcile.defaultSubscription fallback now org.subscription =
              Reconcile.defaultSubscription plan now org.subscription := by
            simp only [Reconcile.defaultSubscription, hid]
          refine ⟨_, Table.get?_insert_self _ _ _, ?_⟩
          rw [hdefault]
          exact hended.2 fun spared => counts (hspares.mpr spared)
    · exact ⟨org, stored, told.ignore nothing⟩
  | invoice e =>
    have haddress : e.address = org.address := Option.some.inj hk
    obtain ⟨o, ho, hsettled⟩ := settle_invoice_ok h
    rw [haddress, stored] at ho
    obtain rfl := Option.some.inj ho
    rcases hsettled with ⟨same, rfl⟩ | rfl
    · exact ⟨org, stored, told.pay same⟩
    · exact ⟨_, Table.get?_insert_self _ _ _, told.pay (Calendar.sameMoment_refl _)⟩
  | _ => cases hk

end Delivery

/-! ## Runs -/

/-- A delivery, or the passing of time. -/
def Operation.IsDelivery : Operation → Prop
  | .deliver _ => True
  | .receive _ _ => True
  | .setClock _ => True
  | _ => False

/-- What an entry says of the tenant at an address: its event, if it was taken in. -/
def Entry.occurrence? (address : String) (e : Entry) : Option Occurrence :=
  match e.event, e.reply with
  | some event, .delivery (.ok _) =>
    if event.kind.address? = some address then some ⟨event.kind, e.now⟩ else none
  | _, _ => none

namespace World

/-- A world in which no call to store or ledger fails. -/
structure Calm (w : World) : Prop where
  pool : w.poolClosed = false
  store : w.desk.outages = .none
  ledger : w.ledger.IsPlain

/-- The events of a run that were taken in for the tenant at an address, in their order. -/
def accepted (w : World) (ops : List Operation) (address : String) : List Occurrence :=
  (w.history ops).filterMap (Entry.occurrence? address)

/-- The events that are delivered in a run. -/
def delivered (w : World) (ops : List Operation) : List Event :=
  (w.history ops).filterMap (·.event)

/-- No event of a run is delivered twice, or was marked before. -/
structure Fresh (w : World) (ops : List Operation) : Prop where
  distinct : ((w.delivered ops).map (·.id)).Nodup
  unseen : ∀ event ∈ w.delivered ops, w.ledger.ledger.entries.get? event.id = none

/-- What a run of deliveries keeps: the catalog, and a record that is what the events say. -/
structure Recorded (initial : Store) (address : String) (first : Subscription) (plan : Plan)
    (past : List Occurrence) (w : World) : Prop where
  sound : w.store.Sound
  catalog : initial.SameCatalog w.store
  record : ∃ org, w.store.organization? address = some org ∧
    Says initial first plan past org.subscription

variable {w : World} {op : Operation} {ops : List Operation}

theorem Calm.answer (h : w.Calm) (c : Call) : (w.answer c).2.Calm := by
  cases c with
  | store c =>
    have hstrike : w.desk.outages.strike c.op = (false, .none) := by
      rw [h.store, Outages.strike_none]
    rw [answer_store h.pool]
    refine ⟨h.pool, ?_, h.ledger⟩
    unfold StoreDesk.answer
    rw [hstrike]
    rfl
  | ledger c =>
    rw [answer_ledger h.pool]
    exact ⟨h.pool, h.store, (h.ledger.answer_ledger w.clock c).1⟩
  | _ => exact ⟨h.pool, h.store, h.ledger⟩

theorem Calm.step (h : w.Calm) (hop : op.IsDelivery) : (w.step op).2.Calm := by
  cases op with
  | deliver event => exact run_keeps Calm (fun u c hu => hu.answer c) (Delivery.handle event) h
  | receive payload header =>
    exact run_keeps Calm (fun u c hu => hu.answer c) (Delivery.process payload header) h
  | setClock clock => exact ⟨h.pool, h.store, h.ledger⟩
  | _ => cases hop

theorem delivered_cons (w : World) (op : Operation) (ops : List Operation) :
    w.delivered (op :: ops) = (w.event? op).toList ++ (w.step op).2.delivered ops := by
  unfold delivered
  rw [history, List.filterMap_cons]
  have hevent : (w.entry op).event = w.event? op := rfl
  rw [hevent]
  cases w.event? op <;> rfl

theorem delivered_append (w : World) (past rest : List Operation) :
    w.delivered (past ++ rest) = w.delivered past ++ (w.after past).delivered rest := by
  induction past generalizing w with
  | nil => rfl
  | cons op past ih =>
    rw [List.cons_append, delivered_cons, delivered_cons, ih, List.append_assoc]
    rfl

theorem accepted_cons (w : World) (op : Operation) (ops : List Operation) (address : String) :
    w.accepted (op :: ops) address =
      ((w.entry op).occurrence? address).toList ++ (w.step op).2.accepted ops address := by
  unfold accepted
  rw [history, List.filterMap_cons]
  cases (w.entry op).occurrence? address <;> rfl

/-- What is left of a fresh run is fresh. -/
theorem Fresh.step (h : w.Fresh (op :: ops)) : (w.step op).2.Fresh ops := by
  have hdistinct := h.distinct
  have hunseen := h.unseen
  rw [delivered_cons] at hdistinct hunseen
  rw [List.map_append, List.nodup_append] at hdistinct
  refine ⟨hdistinct.2.1, fun event hevent => ?_⟩
  cases hmark : (w.step op).2.ledger.ledger.entries.get? event.id with
  | none => rfl
  | some m =>
    rcases get?_of_step hmark with hbefore | hrecorded
    · rw [hunseen event (List.mem_append_right _ hevent)] at hbefore
      cases hbefore
    · obtain ⟨other, outcome, hother, hid, -⟩ := entry_recorded?_iff.mp hrecorded
      refine absurd hid (hdistinct.2.2 _ ?_ _ (List.mem_map_of_mem hevent))
      rw [hother]
      exact List.mem_cons_self

/-- The occurrence of a delivery that was handled. -/
theorem occurrence?_of_run {event : Event} {r : Except Failure DeliveryOutcome} {u : World}
    (he : w.event? op = some event) (h : w.run (Delivery.handle event) = (r, u))
    (address : String) :
    (w.entry op).occurrence? address =
      match r with
      | .ok _ => if event.kind.address? = some address then some ⟨event.kind, w.now⟩ else none
      | .error _ => none := by
  unfold Entry.occurrence? entry
  rw [he, step_of_run he h]
  cases r <;> rfl

/-- Without an event, a delivery does nothing. -/
theorem store_of_event?_none (hop : op.IsDelivery) (h : w.event? op = none) :
    (w.step op).2.store = w.store := by
  cases op with
  | deliver event => cases h
  | receive payload header =>
    obtain ⟨e, -, hrun⟩ := run_process_none h
    simp only [step, hrun]
    rfl
  | setClock clock => rfl
  | _ => cases hop

section Step
variable {initial : Store} {address : String} {first : Subscription} {plan : Plan}
  {past : List Occurrence}

/-- What handling an event makes of the record of a tenant. -/
theorem Recorded.handle {event : Event} {r : Except Failure DeliveryOutcome} {u : World}
    (h : w.Recorded initial address first plan past) (calm : w.Calm) (hinitial : initial.Sound)
    (orderly : initial.Orderly plan)
    (unseen : w.ledger.ledger.entries.get? event.id = none)
    (named : ∀ e, event.kind = .subscription e → e.subscriptionId ≠ "")
    (he : w.event? op = some event) (hrun : w.run (Delivery.handle event) = (r, u)) :
    u.Recorded initial address first plan
      (past ++ ((w.entry op).occurrence? address).toList) := by
  have new : w.scene.ledger.Admits w.scene.clock event.id := by
    refine calm.ledger.admits_iff.mpr ?_
    unfold Ledger.isMarked
    rw [unseen]
  have hopen : w.Open False := ⟨calm.pool, Or.inr calm.store⟩
  have handled := Delivery.gives_handle (run_gives (Delivery.handle event) hopen)
  rw [hrun] at handled
  obtain ⟨org, stored, told⟩ := h.record
  obtain ⟨id, ⟨done, rfl, -⟩ | ⟨b, -, rfl, same, -⟩⟩ := handled.calm h.sound new
  · rw [occurrence?_of_run he hrun]
    have keeps := Delivery.settle_keeps h.sound done
    refine ⟨keeps.sound, h.catalog.trans keeps.catalog, ?_⟩
    by_cases hk : event.kind.address? = some address
    · simp only [if_pos hk, Option.toList_some]
      obtain rfl := h.sound.organization _ _ stored
      exact Delivery.settle_told h.sound hinitial h.catalog orderly named hk stored told done
    · simp only [if_neg hk, Option.toList_none, List.append_nil]
      exact ⟨org, (keeps.others address hk).trans stored, told⟩
  · rw [occurrence?_of_run he hrun]
    have hstore : u.store = w.store := same
    simp only [Option.toList_none, List.append_nil]
    exact ⟨hstore ▸ h.sound, hstore ▸ h.catalog, org, hstore ▸ stored, told⟩

theorem Recorded.step (h : w.Recorded initial address first plan past) (calm : w.Calm)
    (hinitial : initial.Sound) (orderly : initial.Orderly plan) (hop : op.IsDelivery)
    (unseen : ∀ event, w.event? op = some event →
      w.ledger.ledger.entries.get? event.id = none)
    (named : ∀ event e, w.event? op = some event → event.kind = .subscription e →
      e.subscriptionId ≠ "") :
    (w.step op).2.Recorded initial address first plan
      (past ++ ((w.entry op).occurrence? address).toList) := by
  cases he : w.event? op with
  | some event =>
    have hstep := step_of_run he rfl
    rw [hstep]
    exact h.handle calm hinitial orderly (unseen event he) (fun e => named event e he) he rfl
  | none =>
    have hstore := store_of_event?_none hop he
    have hnone : (w.entry op).occurrence? address = none := by
      unfold Entry.occurrence? entry
      rw [he]
    rw [hnone, Option.toList_none, List.append_nil]
    obtain ⟨org, stored, told⟩ := h.record
    exact ⟨hstore ▸ h.sound, hstore ▸ h.catalog, org, hstore ▸ stored, told⟩

/-- Along a run of deliveries the record of a tenant is what its events say. -/
theorem Recorded.after (h : w.Recorded initial address first plan past) (calm : w.Calm)
    (hinitial : initial.Sound) (orderly : initial.Orderly plan)
    (hops : ∀ op ∈ ops, op.IsDelivery) (fresh : w.Fresh ops)
    (named : ∀ event ∈ w.delivered ops, ∀ e, event.kind = .subscription e →
      e.subscriptionId ≠ "") :
    (w.after ops).Recorded initial address first plan (past ++ w.accepted ops address) := by
  induction ops generalizing w past with
  | nil => exact (List.append_nil past).symm ▸ h
  | cons op ops ih =>
    have hhere (event : Event) (he : w.event? op = some event) :
        event ∈ w.delivered (op :: ops) := by
      rw [delivered_cons, he]
      exact List.mem_cons_self
    have hrest (event : Event) (hevent : event ∈ (w.step op).2.delivered ops) :
        event ∈ w.delivered (op :: ops) := by
      rw [delivered_cons]
      exact List.mem_append_right _ hevent
    have hop := hops op List.mem_cons_self
    have hstep := h.step calm hinitial orderly hop
      (fun event he => fresh.unseen event (hhere event he))
      (fun event e he => named event (hhere event he) e)
    rw [accepted_cons, ← List.append_assoc]
    exact ih hstep (calm.step hop) (fun o ho => hops o (List.mem_cons_of_mem _ ho)) fresh.step
      fun event hevent => named event (hrest event hevent)

end Step

/-- After any run of deliveries of events that are new, in which no call fails and nobody else
writes, the record of a tenant follows from its events that were taken in: whatever the order,
whatever the clock, and whatever happened to other tenants and to the catalog in between. -/
theorem record_closed_form {address : String} {org : Organization} {plan : Plan} (calm : w.Calm)
    (sound : w.store.Sound) (orderly : w.store.Orderly plan)
    (stored : w.store.organization? address = some org) (hops : ∀ op ∈ ops, op.IsDelivery)
    (fresh : w.Fresh ops)
    (named : ∀ event ∈ w.delivered ops, ∀ e, event.kind = .subscription e →
      e.subscriptionId ≠ "") :
    ∃ org', (w.after ops).store.organization? address = some org' ∧
      ClosedForm w.store org.subscription plan (w.accepted ops address) org'.subscription := by
  have hw : w.Recorded w.store address org.subscription plan [] :=
    ⟨sound, .refl _, org, stored, .nil _ _ _⟩
  obtain ⟨org', horg', told⟩ := (hw.after calm sound orderly hops fresh named).record
  exact ⟨org', horg', told.closedForm⟩

/-- A subscription that is paid once and canceled a year later leaves the default plan, since
that day, and the date of the payment. -/
theorem canceled_after_a_year :
    let free : Plan := { (default : Plan) with id := 1, name := "Free", isDefault := true }
    let canceled : Event := ⟨"evt_3", "customer.subscription.deleted", 0,
      .subscription { sampleSubscription with status := .canceled }⟩
    let ops : List Operation := [.deliver sampleSubscribed, .deliver samplePayment,
      .setClock (newYear 2025 (by decide)), .deliver canceled]
    ∃ org, (sample.after ops).store.organization? "0xa1" = some org ∧
      org.subscription.IsFallen free (newYear 2025 (by decide)) ∧
      sameMoment org.subscription.lastPaymentDate (some (newYear 2024 (by decide))) = true := by
  intro free canceled ops
  have delivered : sample.delivered ops = [sampleSubscribed, samplePayment, canceled] := rfl
  have accepted : sample.accepted ops "0xa1" =
      [⟨sampleSubscribed.kind, newYear 2024 (by decide)⟩,
        ⟨samplePayment.kind, newYear 2024 (by decide)⟩,
        ⟨canceled.kind, newYear 2025 (by decide)⟩] := by decide +kernel
  have orderly : sample.store.Orderly free :=
    ⟨by decide +kernel, by decide +kernel, by decide +kernel⟩
  have hops : ∀ op ∈ ops, op.IsDelivery := by
    simp only [ops, List.mem_cons, List.not_mem_nil, or_false]
    rintro op (rfl | rfl | rfl | rfl) <;> trivial
  have fresh : sample.Fresh ops := ⟨by decide +kernel, fun _ _ => rfl⟩
  have named : ∀ event ∈ sample.delivered ops, ∀ e, event.kind = .subscription e →
      e.subscriptionId ≠ "" := by
    rw [delivered]
    simp only [List.mem_cons, List.not_mem_nil, or_false]
    rintro event (rfl | rfl | rfl) e he <;> cases he <;> decide
  have calm : sample.Calm := ⟨rfl, rfl, rfl, rfl⟩
  have stored : sample.store.organization? "0xa1" = some ⟨"0xa1", default, default⟩ := by
    decide +kernel
  obtain ⟨org, horg, closed⟩ :=
    record_closed_form calm Store.sample_sound orderly stored hops fresh named
  rw [accepted] at closed
  exact ⟨org, horg,
    closed.ended [] _ [_] _ [] _ rfl rfl (by decide +kernel) (by decide +kernel) rfl,
    closed.payment⟩

end World

end TenantBilling
