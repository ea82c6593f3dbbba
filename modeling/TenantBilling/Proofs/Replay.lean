import TenantBilling.Proofs.ClosedForm
import TenantBilling.Proofs.Openings

/-! Events that are applied twice. The first application leaves a store in which the second one
finds everything as it should be, whatever the time, as long as the provider says the same: it
answers that nothing changed, and writes no record. -/

namespace TenantBilling

open Calendar

/-! ## What a second application comes to -/

/-- Two providers that say the same to an event, the metadata of its customer apart. -/
def EventKind.SameWords (p q : Provider) : EventKind → Prop
  | .subscription e =>
    (q.resolve e.customer).bind (·.email) = (p.resolve e.customer).bind (·.email)
  | .product e => q.offer e.productId = p.offer e.productId
  | _ => True

/-- A record that follows from the provider's data stays as it is under the same data. -/
theorem Plan.refresh_refresh {plan refreshed : Plan} {product : Product} {prices : List Price}
    (h : plan.refresh product prices = .ok refreshed) :
    refreshed.refresh product prices = .ok refreshed := by
  have record {α : Type} {key : String} {read : Json.Site → Option α} {fallback a : α}
      (h : product.record key fallback read = .ok a) : product.record key a read = .ok a := by
    unfold Product.record at h ⊢
    split at h
    · rfl
    · exact h
  have trial {fallback days : Int} (h : product.freeTrialDays fallback = .ok days) :
      product.freeTrialDays days = .ok days := by
    unfold Product.freeTrialDays at h ⊢
    split at h
    · rfl
    · exact h
  unfold Plan.refresh at h ⊢
  simp only [bind, Except.bind, pure, Except.pure] at h ⊢
  split at h
  · cases h
  · rename_i limits hlimits
    split at h
    · cases h
    · rename_i features hfeatures
      split at h
      · cases h
      · rename_i days hdays
        cases h
        rw [record hlimits, record hfeatures, trial hdays]
        dsimp only
        split <;> rfl

theorem planOfProductWith_again {words : String} {plan refreshed : Plan} {product : Product}
    {prices : List Price} (h : planOfProductWith words plan product prices = .ok refreshed) :
    planOfProductWith words refreshed product prices = .ok refreshed :=
  mapError_eq_ok_iff.mpr (Plan.refresh_refresh (mapError_eq_ok_iff.mp h))

theorem planOfProduct_again {plan refreshed : Plan} {product : Product} {prices : List Price}
    (h : planOfProduct plan product prices = .ok refreshed) :
    planOfProduct refreshed product prices = .ok refreshed := planOfProductWith_again h

namespace Store
variable {s : Store}

theorem liveStore_plans (now : DateTime) (id : Uuid) (org : Organization) (e : SubscriptionEvent)
    (subscription : Subscription) :
    (Reconcile.liveStore s now id org e subscription).plans = s.plans := by
  have hassign : (s.assign org subscription).plans = s.plans := by
    unfold assign
    split <;> rfl
  unfold Reconcile.liveStore
  split
  · rw [(opened_withBaseline _ _ _ _).rest]
    exact hassign
  · exact hassign

/-- A plan that was brought up to date is still the one sold under its product. -/
theorem planOfProduct?_setPlan (hs : s.Sound) {plan refreshed : Plan} {productId : String}
    {product : Product} {prices : List Price} (sold : s.planOfProduct? productId = some plan)
    (h : planOfProduct plan product prices = .ok refreshed) :
    (s.setPlan refreshed).1.planOfProduct? productId = some refreshed := by
  obtain ⟨hid, hproduct, -⟩ := planOfProduct_ok h
  obtain ⟨hmem, -⟩ := planOfProduct?_some sold
  have keeps : Keeps (.product ⟨productId⟩) s (s.setPlan refreshed).1 := keeps_plan hs hmem h
  obtain ⟨q, hq, hqid⟩ := keeps.catalog.symm.sold keeps.sound hs sold
  -- it stands under the same id, and there is one plan under an id
  obtain ⟨j, hj⟩ := (Table.mem_values_iff _ _).mp (planOfProduct?_some hq).1
  have hkey : j = refreshed.id := by
    rw [hid, ← hqid]
    exact (keeps.sound.plan j q hj).symm
  obtain ⟨k, hk⟩ := (Table.mem_values_iff _ _).mp hmem
  have hne : refreshed.id ≠ 0 := by
    rw [hid, hs.plan k plan hk]
    exact (hs.planId k plan hk).1
  have hnew : (s.setPlan refreshed).1.plans.get? refreshed.id = some refreshed := by
    unfold setPlan
    rw [if_neg hne]
    exact Table.get?_insert_self _ _ _
  rw [hkey, hnew] at hj
  rw [hq, Option.some.inj hj]

end Store

namespace Reconcile
variable {s t : Store} {now : DateTime} {id : Uuid} {org : Organization}

/-- The record of a live subscription depends on what the provider says of the customer through
the e-mail address alone. -/
theorem liveSubscription_email {e : SubscriptionEvent} {plan : Plan} {previous : Subscription}
    {c c' : Option Customer} (email : c'.bind (·.email) = c.bind (·.email)) :
    liveSubscription e plan previous c' = liveSubscription e plan previous c := by
  simp only [liveSubscription, email]

/-- What the record of a live subscription is on a second application: what is stored already. -/
theorem live_stays {e : SubscriptionEvent} {plan : Plan} {previous : Subscription}
    {c c' : Option Customer} (email : c'.bind (·.email) = c.bind (·.email)) :
    let first := liveSubscription e plan previous c
    let stored := if first.agrees previous then previous else first
    (liveSubscription e plan stored c').agrees stored = true := by
  intro first stored
  rw [liveSubscription_email email]
  by_cases agrees : first.agrees previous = true
  · have hstored : stored = previous := if_pos agrees
    rw [hstored]
    exact agrees
  · have hstored : stored = first := if_neg agrees
    rw [hstored, live_over (Or.inr rfl)]
    exact Subscription.agrees_refl _

/-- A record that is as it should be is not written; only a period may be opened. -/
theorem liveStore_of_agrees {e : SubscriptionEvent} {subscription : Subscription}
    (agrees : subscription.agrees org.subscription = true) :
    liveStore s now id org e subscription =
      if e.period = .annual then s.withBaseline { org with subscription } now id else s := by
  unfold liveStore Store.assign
  rw [if_pos agrees]

/-- The period of an annual subscription is open once the subscription was applied. -/
theorem covers_liveStore {e : SubscriptionEvent} {plan plan' : Plan}
    {previous previous' : Subscription} {c c' : Option Customer} {org' : Organization}
    (annual : e.period = .annual) (address : org'.address = org.address) :
    (liveStore s now id org e (liveSubscription e plan previous c)).Covers
      { org' with subscription := liveSubscription e plan' previous' c' } now := by
  let subscribed : Organization := { org with subscription := liveSubscription e plan previous c }
  have covers : (Store.withBaseline (s.assign org subscribed.subscription) subscribed now id).Covers
      subscribed now := Store.covers_withBaseline
  -- the period depends on the event alone
  intro window hwindow
  have hopen := covers window hwindow
  unfold liveStore
  rw [if_pos annual]
  exact address.symm ▸ hopen

/-- A subscription that is live already stays as it is; the period of an annual one is opened if
time has moved on to another one. -/
theorem settleLive_again {e : SubscriptionEvent} {c c' : Option Customer} {plan : Plan}
    (now' : DateTime) (id' : Uuid) (hs : s.Sound) (stored : s.organization? e.address = some org)
    (email : c'.bind (·.email) = c.bind (·.email))
    (sold : s.planOfProduct? e.productId = some plan) :
    let t := liveStore s now id org e (liveSubscription e plan org.subscription c)
    ∃ org' t', t.organization? e.address = some org' ∧
      settleLive t now' c' id' org' e = .ok (⟨.unchanged, backfill e c'⟩, t') ∧
      t.Opened t' ∧ (now' = now → t' = t) := by
  intro t
  have haddress : org.address = e.address := hs.organization _ _ stored
  rw [← haddress] at stored ⊢
  obtain ⟨org', stored', hsub⟩ := Delivery.organization?_live stored now id e
    (liveSubscription e plan org.subscription c)
  have hkind : (EventKind.subscription e).address? = some org.address :=
    congrArg some haddress.symm
  have keeps := Store.keeps_live hs hkind now id e (liveSubscription e plan org.subscription c)
  have haddress' : org'.address = org.address := keeps.sound.organization _ _ stored'
  have sold' : t.planOfProduct? e.productId = some plan := by
    unfold Store.planOfProduct?
    rw [Store.liveStore_plans]
    exact sold
  have agrees : (liveSubscription e plan org'.subscription c').agrees org'.subscription = true :=
    hsub ▸ live_stays email
  refine ⟨org', liveStore t now' id' org' e (liveSubscription e plan org'.subscription c'),
    stored', ?_, ?_, ?_⟩
  · simp only [settleLive, sold', agrees, if_true]
  · rw [liveStore_of_agrees agrees]
    split
    · exact Store.opened_withBaseline _ _ _ _
    · exact .same
  · intro hnow
    rw [liveStore_of_agrees agrees, hnow]
    split
    · rename_i annual
      exact Store.withBaseline_of_covers (covers_liveStore annual haddress')
    · rfl

/-- An organization that fell back to the default plan, or is spared, is left alone. -/
theorem settleEnded_again {subscriptionId : String} {outcome : Outcome} (now' : DateTime)
    (haddress : s.organization? org.address = some org)
    (h : settleEnded s now org subscriptionId = .ok (outcome, t)) :
    ∃ org', t.organization? org.address = some org' ∧
      settleEnded t now' org' subscriptionId = .ok (.unchanged, t) := by
  rcases Delivery.settleEnded_ok h with ⟨stale, rfl⟩ | ⟨plan, fallback, ⟨spares, rfl⟩ | ⟨-, rfl⟩⟩
  · refine ⟨org, haddress, ?_⟩
    unfold settleEnded
    rw [if_pos stale]
  · exact ⟨org, haddress, settleEnded_of_spares fallback spares⟩
  · exact ⟨_, Table.get?_insert_self _ _ _, settleEnded_of_spares fallback (Or.inr ⟨rfl, rfl⟩)⟩

/-- What applying an event does when every call is answered: its outcome and the store after. -/
def settle (s : Store) (now : DateTime) (p : Provider) (id : Uuid) :
    EventKind → Except BillingError (Outcome × Store)
  | .subscription e =>
    (settleSubscription s now (p.resolve e.customer) id e).map fun x => (x.1.outcome, x.2)
  | .invoice e => settleInvoice s e
  | .product e => settleProduct s (p.offer e.productId) e
  | .unhandled => .ok (.unchanged, s)

section Again
variable {p q : Provider} {outcome : Outcome}

/-- A delivery settles its event as it is applied. -/
theorem settle_delivered (kind : EventKind) :
    Delivery.settle s now p id kind = (settle s now p id kind).map (·.2) := by
  cases kind with
  | subscription e =>
    simp only [Delivery.settle, settle]
    cases settleSubscription s now (p.resolve e.customer) id e <;> rfl
  | _ => rfl

theorem settle_subscription_again {e : SubscriptionEvent} (now' : DateTime) (id' : Uuid)
    (hs : s.Sound) (words : (EventKind.subscription e).SameWords p q)
    (h : Delivery.settle s now p id (.subscription e) = .ok t) :
    ∃ t', settle t now' q id' (.subscription e) = .ok (.unchanged, t') ∧
      t.Opened t' ∧ (now' = now → t' = t) := by
  obtain ⟨org, stored, settled⟩ := Delivery.settle_subscription_ok h
  have haddress : org.address = e.address := hs.organization _ _ stored
  rcases settled with ⟨live, plan, sold, rfl⟩ | ⟨ended, outcome, h⟩ | ⟨nothing, rfl⟩
  · obtain ⟨org', t', stored', again, rest⟩ := settleLive_again now' id' hs stored words sold
    refine ⟨t', ?_, rest⟩
    simp only [settle, settleSubscription, stored', live, again, Except.map]
  · obtain ⟨org', stored', again⟩ := settleEnded_again now' (haddress.symm ▸ stored) h
    rw [haddress] at stored'
    refine ⟨t, ?_, .same, fun _ => rfl⟩
    simp only [settle, settleSubscription, stored', ended, again, Except.map]
  · refine ⟨t, ?_, .same, fun _ => rfl⟩
    simp only [settle, settleSubscription, stored, nothing, Except.map]

theorem settle_invoice_again {e : InvoiceEvent} (hs : s.Sound)
    (h : Delivery.settle s now p id (.invoice e) = .ok t) :
    settleInvoice t e = .ok (.unchanged, t) := by
  obtain ⟨org, stored, ⟨paid, rfl⟩ | rfl⟩ := Delivery.settle_invoice_ok h
  · simp only [settleInvoice, stored, paid, if_true]
  · have haddress : org.address = e.address := hs.organization _ _ stored
    have stored' : (s.putSubscription org
        { org.subscription with lastPaymentDate := some e.effectiveAt }).organization? e.address =
          some { org with subscription :=
            { org.subscription with lastPaymentDate := some e.effectiveAt } } := by
      rw [← haddress]
      exact Table.get?_insert_self _ _ _
    simp only [settleInvoice, stored', sameMoment_refl, if_true]

theorem settle_product_again {e : ProductEvent} (hs : s.Sound)
    (h : Delivery.settle s now p id (.product e) = .ok t) :
    settleProduct t (p.offer e.productId) e = .ok (.unchanged, t) := by
  rcases Delivery.settle_product_ok h with ⟨unsold, rfl⟩ | ⟨plan, offer, refreshed, sold, hoffer,
    hrefreshed, ⟨rfl, rfl⟩ | rfl⟩
  · simp only [settleProduct, unsold]
  · simp only [settleProduct, sold, hoffer, bind, Except.bind, hrefreshed, if_true]
  · have sold' := Store.planOfProduct?_setPlan hs sold hrefreshed
    simp only [settleProduct, sold', hoffer, bind, Except.bind, planOfProduct_again hrefreshed,
      if_true]

/-- An event that was applied changes nothing when it is applied again, the opening of a period
that began since apart. -/
theorem settle_again {kind : EventKind} (now' : DateTime) (id' : Uuid) (hs : s.Sound)
    (words : kind.SameWords p q)
    (h : settle s now p id kind = .ok (outcome, t)) :
    ∃ t', settle t now' q id' kind = .ok (.unchanged, t') ∧
      t.Opened t' ∧ (now' = now → t' = t) := by
  have settled : Delivery.settle s now p id kind = .ok t := by
    rw [settle_delivered, h]
    rfl
  cases kind with
  | subscription e => exact settle_subscription_again now' id' hs words settled
  | invoice e => exact ⟨t, settle_invoice_again hs settled, .same, fun _ => rfl⟩
  | product e =>
    have offer : q.offer e.productId = p.offer e.productId := words
    refine ⟨t, ?_, .same, fun _ => rfl⟩
    simp only [settle, offer]
    exact settle_product_again hs settled
  | unhandled =>
    cases settled
    exact ⟨s, rfl, .same, fun _ => rfl⟩

end Again

/-- Applies an event as its family has it. -/
def apply : EventKind → Action Outcome
  | .subscription e => (·.outcome) <$> applySubscription e
  | .invoice e => applyInvoice e
  | .product e => applyProduct e
  | .unhandled => pure .unchanged

/-- Applying an event settles it, unless a call to the store fails. -/
theorem gives_apply {mayFail : Prop} {a b : Scene} {kind : EventKind} {r : Except Failure Outcome}
    (hs : a.store.Sound) (h : (apply kind).Gives mayFail a r b) :
    (∃ id, (r, b.store) = settled (settle a.store a.now a.provider id kind) a.store) ∨
      (mayFail ∧ ∃ op, r = .error (.storeDown op)) := by
  cases kind with
  | subscription e =>
    obtain ⟨q, hq, rfl⟩ := Action.gives_map.mp h
    rcases gives_applySubscription hs hq with
      ⟨id, hid⟩ | ⟨hf, ⟨op, rfl⟩, -⟩ | ⟨f, rfl, hf, -, -, hop, -⟩
    · refine Or.inl ⟨id, ?_⟩
      cases q with
      | ok x => exact settled_map_ok (fun y : Reconciled => y.outcome) hid
      | error f => exact settled_map_error (fun y : Reconciled => y.outcome) hid
    · exact Or.inr ⟨hf, op, rfl⟩
    · exact Or.inr ⟨hf, hop.elim (fun hop => ⟨_, congrArg Except.error hop⟩)
        fun hop => ⟨_, congrArg Except.error hop⟩⟩
  | invoice e =>
    rcases gives_applyInvoice hs h with h | ⟨hf, hr, -⟩
    · exact Or.inl ⟨default, h⟩
    · exact Or.inr ⟨hf, hr⟩
  | product e =>
    rcases gives_applyProduct h with h | ⟨hf, hr, -⟩
    · exact Or.inl ⟨default, h⟩
    · exact Or.inr ⟨hf, hr⟩
  | unhandled =>
    obtain ⟨rfl, rfl⟩ := Action.gives_pure.mp h
    exact Or.inl ⟨default, rfl⟩

theorem settle_of_gives {mayFail : Prop} {a b : Scene} {kind : EventKind} {outcome : Outcome}
    (hs : a.store.Sound) (h : (apply kind).Gives mayFail a (.ok outcome) b) :
    ∃ id, settle a.store a.now a.provider id kind = .ok (outcome, b.store) := by
  rcases gives_apply hs h with ⟨id, hid⟩ | ⟨-, op, hop⟩
  · refine ⟨id, ?_⟩
    cases hx : settle a.store a.now a.provider id kind with
    | ok x =>
      rw [hx] at hid
      exact congrArg Except.ok (Prod.ext (Except.ok.inj (congrArg Prod.fst hid)).symm
        (congrArg Prod.snd hid).symm)
    | error e =>
      rw [hx] at hid
      cases hid
  · cases hop

end Reconcile

/-! ## Which calls it makes -/

/-- A call that writes no record: it asks, or opens a period. -/
def Call.SparesRecords : Call → Prop
  | .store c => c.IsQuery
  | .provider (.updateMetadata _ _) => False
  | _ => True

theorem Call.IsQuery.sparesRecords (c : Call) (h : c.IsQuery) : c.SparesRecords := by
  cases c with
  | store => exact h
  | provider => cases h
  | _ => trivial

namespace World
variable {α β : Type}

/-- The calls that a program makes in a world, in their order. -/
def calls : World → Proc α → List Call
  | _, .done _ => []
  | w, .call c next => c :: (w.answer c).2.calls (next (w.answer c).1)

theorem calls_proc_bind (w : World) (p : Proc α) (f : α → Proc β) :
    w.calls (p.bind f) = w.calls p ++ (w.runProc p).2.calls (f (w.runProc p).1) := by
  induction p generalizing w with
  | done a => rfl
  | call c next ih => simp only [Proc.bind, calls, runProc, ih, List.cons_append]

theorem calls_within {allowed : Call → Prop} {p : Proc α} (hp : p.Within allowed) (w : World) :
    ∀ c ∈ w.calls p, allowed c := by
  induction p generalizing w with
  | done a => simp [calls]
  | call c next ih =>
    intro d hd
    rcases List.mem_cons.mp hd with rfl | hd
    · exact hp.1
    · exact ih _ (hp.2 _) _ d hd

end World

namespace Action
variable {α β : Type} {allowed : Call → Prop}

/-- Whenever the action ends in such a result, it made allowed calls alone. -/
def WithinFor (allowed : Call → Prop) (x : Action α) (such : α → Prop) : Prop :=
  ∀ (w : World) (a : α), (w.run x).1 = .ok a → such a → ∀ c ∈ w.calls x.run, allowed c

theorem Within.for {x : Action α} (h : x.Within allowed) (such : α → Prop) :
    x.WithinFor allowed such := fun w _ _ _ => World.calls_within h w

/-- A sequence makes allowed calls alone, if its first part does whenever it ends so that the
sequence can end in such a result. -/
theorem WithinFor.bind {x : Action α} {f : α → Action β} {early : α → Prop} {such : β → Prop}
    (hx : x.WithinFor allowed early) (hf : ∀ a, (f a).WithinFor allowed such)
    (back : ∀ (w : World) a b, (w.run (f a)).1 = .ok b → such b → early a) :
    (x >>= f).WithinFor allowed such := by
  intro w b hb hsuch c hc
  have hrun : (w.run (x >>= f)).1 = .ok b := hb
  rw [World.run_bind] at hrun
  rw [run_bind, World.calls_proc_bind, List.mem_append] at hc
  have hproc : w.runProc x.run = w.run x := rfl
  rw [hproc] at hc
  cases hx' : w.run x with
  | mk r u =>
    rw [hx'] at hrun hc
    cases r with
    | error e => cases hrun
    | ok a =>
      rcases hc with hc | hc
      · exact hx w a (congrArg Prod.fst hx') (back u a b hrun hsuch) c hc
      · exact hf a u b hrun hsuch c hc

/-- Nothing is asked of the result of a part that makes allowed calls alone. -/
theorem Within.bind_for {x : Action α} {f : α → Action β} {such : β → Prop}
    (hx : x.Within allowed) (hf : ∀ a, (f a).WithinFor allowed such) :
    (x >>= f).WithinFor allowed such :=
  (hx.for fun _ => True).bind hf fun _ _ _ _ _ => trivial

theorem WithinFor.map {x : Action α} {f : α → β} {such : β → Prop}
    (h : x.WithinFor allowed fun a => such (f a)) : (f <$> x).WithinFor allowed such := by
  rw [map_eq_pure_bind]
  refine h.bind (fun a => (within_pure _).for _) fun w a b hb hsuch => ?_
  obtain rfl : f a = b := Except.ok.inj hb
  exact hsuch

/-- Nothing is said of an action that never ends in such a result. -/
theorem WithinFor.of_never {x : Action α} {such : α → Prop}
    (never : ∀ (w : World) a, (w.run x).1 = .ok a → ¬such a) : x.WithinFor allowed such :=
  fun w a ha hsuch => absurd hsuch (never w a ha)

/-- What ends in a fixed result ends in no other one. -/
theorem run_bind_pure {x : Action α} {b b' : β} {w : World}
    (h : (w.run (x >>= fun _ => pure b)).1 = .ok b') : b' = b := by
  rw [World.run_bind] at h
  cases hx : w.run x with
  | mk r u =>
    rw [hx] at h
    cases r with
    | error e => cases h
    | ok a => exact (Except.ok.inj h).symm

end Action

namespace Reconcile
open TenantBilling.Action

theorem resolveCustomer_spares (c : CustomerRef) :
    Within Call.SparesRecords (resolveCustomer c) := by
  unfold resolveCustomer
  split
  · exact within_pure _
  · exact within_lift ⟨trivial, fun _ => trivial⟩

theorem loadOrganization_spares (address : String) :
    Within Call.SparesRecords (Usage.loadOrganization address) :=
  Proc.Within.mono Call.IsQuery.sparesRecords (Usage.loadOrganization_within address)

theorem ensureSnapshot_spares (org : Organization) :
    Within Call.SparesRecords (Usage.ensureSnapshot org) :=
  Proc.Within.mono Call.IsQuery.sparesRecords (Usage.ensureSnapshot_within org)

/-- After a write the answer is never that nothing changed. -/
theorem updated_never {α : Type} {x : Action α} {outcome : Outcome} (h : outcome ≠ .unchanged)
    (w : World) (o : Outcome) (ho : (w.run (x >>= fun _ => pure outcome)).1 = .ok o) :
    ¬o = .unchanged := fun hu => h ((run_bind_pure ho).symm.trans hu)

theorem writeSubscription_spares (org : Organization) (subscription : Subscription) :
    WithinFor Call.SparesRecords (writeSubscription org subscription) (· = .unchanged) := by
  unfold writeSubscription
  split
  · exact (within_pure _).for _
  · exact .of_never (updated_never (by decide))

theorem applyLive_spares (org : Organization) (e : SubscriptionEvent) :
    WithinFor Call.SparesRecords (applyLive org e) (·.outcome = .unchanged) := by
  refine Within.bind_for (within_store _ trivial) fun plan => ?_
  refine Within.bind_for (within_orFail _ _) fun plan => ?_
  refine Within.bind_for (resolveCustomer_spares _) fun customer => ?_
  refine WithinFor.bind (writeSubscription_spares org _) (fun outcome => ?_)
    fun w outcome x hx hsuch => ?_
  · split
    · exact (ensureSnapshot_spares _).bind_for fun _ => (within_pure _).for _
    · exact (within_pure _).for _
  · split at hx
    · obtain rfl := run_bind_pure hx
      exact hsuch
    · obtain rfl := Except.ok.inj hx
      exact hsuch

theorem fallback_spares (org : Organization) (subscriptionId : String) :
    WithinFor Call.SparesRecords (fallback org subscriptionId) (· = .unchanged) := by
  unfold fallback
  dsimp only
  split
  · exact (within_pure _).for _
  · refine Within.bind_for (within_store _ trivial) fun plan => ?_
    refine Within.bind_for (within_orFail _ _) fun plan => ?_
    split
    · exact (within_pure _).for _
    · refine Within.bind_for (within_now trivial) fun now => ?_
      exact .of_never (updated_never (by decide))

theorem applySubscription_spares (e : SubscriptionEvent) :
    WithinFor Call.SparesRecords (applySubscription e) (·.outcome = .unchanged) := by
  refine Within.bind_for (loadOrganization_spares _) fun org => ?_
  cases effectOf e.status with
  | live => exact applyLive_spares org e
  | ended =>
    refine WithinFor.bind (fallback_spares org _) (fun _ => (within_pure _).for _)
      fun w outcome x hx hsuch => ?_
    obtain rfl := Except.ok.inj hx
    exact hsuch
  | nothing => exact (within_pure _).for _

theorem applyInvoice_spares (e : InvoiceEvent) :
    WithinFor Call.SparesRecords (applyInvoice e) (· = .unchanged) := by
  refine Within.bind_for (loadOrganization_spares _) fun org => ?_
  split
  · exact (within_pure _).for _
  · exact .of_never (updated_never (by decide))

theorem applyProduct_spares (e : ProductEvent) :
    WithinFor Call.SparesRecords (applyProduct e) (· = .unchanged) := by
  refine Within.bind_for (within_store _ trivial) fun plan => ?_
  cases plan with
  | none => exact (within_pure _).for _
  | some plan =>
    refine Within.bind_for (within_provider _ trivial) fun product => ?_
    refine Within.bind_for (within_provider _ trivial) fun prices => ?_
    refine Within.bind_for (within_ofExcept _) fun refreshed => ?_
    split
    · exact (within_pure _).for _
    · exact .of_never (updated_never (by decide))

/-- An event that is found to change nothing was applied without writing a record. -/
theorem apply_spares (kind : EventKind) :
    WithinFor Call.SparesRecords (apply kind) (· = .unchanged) := by
  cases kind with
  | subscription e => exact .map (applySubscription_spares e)
  | invoice e => exact applyInvoice_spares e
  | product e => exact applyProduct_spares e
  | unhandled => exact (within_pure _).for _

end Reconcile

/-! ## Replays -/

namespace World
variable {w u v : World} {kind : EventKind} {outcome : Outcome}

/-- An event that was applied is found to change nothing when it is applied again, at whatever
time, if nobody wrote in between and the provider says the same. No record is written: all that
can be new is the period that the later time falls in. -/
theorem replay_unchanged (sound : w.store.Sound) (pool : w.poolClosed = false)
    (applied : w.run (Reconcile.apply kind) = (.ok outcome, u)) (undisturbed : v.store = u.store)
    (calm : v.Open False) (words : kind.SameWords w.provider v.provider) :
    ∃ x, v.run (Reconcile.apply kind) = (.ok .unchanged, x) ∧
      (∀ c ∈ v.calls (Reconcile.apply kind).run, c.SparesRecords) ∧
      x.store.organizations = v.store.organizations ∧ x.store.plans = v.store.plans ∧
      x.store.subscriptionWrites = v.store.subscriptionWrites ∧
      v.store.Opened x.store ∧ (v.now = w.now → x.store = v.store) := by
  have sound' : v.store.Sound := by
    have sound' := sound_run (Reconcile.apply kind) sound
    rw [applied] at sound'
    exact undisturbed ▸ sound'
  have first := run_gives (Reconcile.apply kind) (open_of_pool pool)
  rw [applied] at first
  obtain ⟨id, first⟩ := Reconcile.settle_of_gives sound first
  have first : Reconcile.settle w.store w.now w.provider id kind = .ok (outcome, v.store) :=
    undisturbed ▸ first
  have second := Reconcile.gives_apply sound' (run_gives (Reconcile.apply kind) calm)
  have spares := Reconcile.apply_spares kind v
  generalize v.run (Reconcile.apply kind) = y at second spares
  obtain ⟨r, x⟩ := y
  rcases second with ⟨id', second⟩ | ⟨fails, -⟩
  · obtain ⟨t, again, opened, same⟩ :=
      Reconcile.settle_again v.now id' sound words first
    have hsettled : (r, x.store) = (.ok .unchanged, t) := by
      refine second.trans ?_
      have hagain : Reconcile.settle v.scene.store v.scene.now v.scene.provider id' kind =
        .ok (.unchanged, t) := again
      rw [hagain]
      rfl
    obtain ⟨rfl, rfl⟩ := Prod.mk.inj hsettled
    have rest := opened.rest
    exact ⟨x, rfl, spares _ rfl rfl, by rw [rest], by rw [rest], by rw [rest], opened, same⟩
  · exact fails.elim

/-- A subscription that is applied again a year later: nothing changes but the period that is
opened. -/
theorem subscribed_again :
    let first := sample.run (Reconcile.apply sampleSubscribed.kind)
    let later : World := { first.2 with clock := newYear 2025 (by decide) }
    ∃ x, later.run (Reconcile.apply sampleSubscribed.kind) = (.ok .unchanged, x) ∧
      x.store.organizations = later.store.organizations ∧ x.store.snapshots.size = 2 := by
  intro first later
  have applied : first.1 = .ok .updated := by decide +kernel
  have calm : first.2.Calm :=
    run_keeps Calm (fun u c hu => hu.answer c) (w := sample) _ ⟨rfl, rfl, rfl, rfl⟩
  obtain ⟨x, again, -, organizations, -⟩ := replay_unchanged (w := sample) (v := later)
    Store.sample_sound rfl (Prod.ext applied rfl) rfl ⟨calm.pool, Or.inr calm.store⟩ rfl
  refine ⟨x, again, organizations, ?_⟩
  have hx : x = (later.run (Reconcile.apply sampleSubscribed.kind)).2 := by rw [again]
  rw [hx]
  decide +kernel

end World

end TenantBilling
