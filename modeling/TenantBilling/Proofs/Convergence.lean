import TenantBilling.Proofs.Atomicity

/-! A delivery that failed can be made again, any number of times. However the attempts failed,
the delivery that goes through in the end answers and leaves what it would have answered and
left at once. What a failed attempt can leave is the record of a live subscription, made with
or without what the provider says of the customer; a record made over it is the same. -/

namespace TenantBilling

open Calendar

/-! ## What the provider knows -/

namespace Provider

/-- The customer of an event, as far as the provider knows it when it can be asked. -/
def knows (p : Provider) (c : CustomerRef) : Option Customer :=
  match c.metadata with
  | some metadata => some ⟨c.id, c.email, metadata⟩
  | none => p.customers.get? c.id

/-- What the provider sells, when it can be asked. -/
def sells (p : Provider) (productId : String) : Except BillingError (Product × List Price) :=
  match p.catalog.get? productId with
  | some offer => .ok offer
  | none => .error (noProduct productId)

/-- The provider after a call was logged. -/
def logged (p : Provider) (c : ProviderCall) : Provider :=
  { p with
    log := p.log ++ [c.op.name ++ " " ++ c.subject]
    outages := (p.outages.strike c.op).2 }

theorem answer_eq (p : Provider) (c : ProviderCall) :
    p.answer c =
      if (p.outages.strike c.op).1 then (.error (.providerTimeout c.op.name), p.logged c)
      else (p.logged c).reply c := rfl

theorem answer_of_calm {p : Provider} (h : p.outages = .none) (c : ProviderCall) :
    p.answer c = (p.logged c).reply c ∧ (p.logged c).outages = .none := by
  have hstrike : p.outages.strike c.op = (false, .none) := by rw [h, Outages.strike_none]
  rw [answer_eq, logged, hstrike]
  exact ⟨if_neg Bool.false_ne_true, rfl⟩

theorem reply_customer (p : Provider) (id : String) :
    (p.reply (.customer id)).1.toOption = p.customers.get? id := by
  unfold reply
  dsimp only
  cases p.customers.get? id <;> rfl

theorem resolve_of_calm {p : Provider} (h : p.outages = .none) (c : CustomerRef) :
    p.resolve c = p.knows c := by
  unfold resolve knows
  cases c.metadata with
  | some metadata => rfl
  | none =>
    dsimp only
    rw [(answer_of_calm h _).1, reply_customer]
    rfl

/-- A provider whose calls may fail says what it knows of a customer, or nothing. -/
theorem resolve_or (p : Provider) (c : CustomerRef) :
    p.resolve c = none ∨ p.resolve c = p.knows c := by
  unfold resolve knows
  cases c.metadata with
  | some metadata => exact Or.inr rfl
  | none =>
    dsimp only
    rw [answer_eq]
    split
    · exact Or.inl rfl
    · exact Or.inr (reply_customer _ _)

theorem offer_of_calm {p : Provider} (h : p.outages = .none) (productId : String) :
    p.offer productId = p.sells productId := by
  obtain ⟨hproduct, hcalm⟩ := answer_of_calm h (.product productId)
  unfold offer sells
  rw [hproduct]
  cases hp : p.catalog.get? productId with
  | none =>
    have hnone : (p.logged (.product productId)).reply (.product productId) =
        (.error (noProduct productId), p.logged (.product productId)) := by
      unfold reply
      simp only [logged, hp]
    rw [hnone]
    rfl
  | some offer =>
    have hsome : (p.logged (.product productId)).reply (.product productId) =
        (.ok offer.1, p.logged (.product productId)) := by
      unfold reply
      simp only [logged, hp]
    have hprices : ((p.logged (.product productId)).answer (.prices productId)).1 =
        .ok offer.2 := by
      rw [(answer_of_calm hcalm _).1]
      unfold reply
      simp only [logged, hp]
    rw [hsome]
    simp only [hprices]
    rfl

end Provider

/-! ## What failed attempts leave in the store -/

/-- A snapshot without the id it was given. -/
def Snapshot.content (x : Snapshot) : Snapshot := { x with id := default }

/-- Two stores that say the same, but for the ids of snapshots. -/
structure Store.Alike (s t : Store) : Prop where
  organizations : t.organizations = s.organizations
  plans : t.plans = s.plans
  snapshots : ∀ k, (t.snapshots.get? k).map Snapshot.content =
    (s.snapshots.get? k).map Snapshot.content

/-- The store with another count of writes. -/
def Store.counting (s : Store) (writes : Nat) : Store := { s with subscriptionWrites := writes }

namespace Reconcile

/-- A store after attempts at an event that failed: as it was, or with the record of a live
subscription that differs from the one that was stored. -/
inductive Attempted (p : Provider) (kind : EventKind) (s : Store) : Store → Prop
  | untouched : Attempted p kind s s
  | written {e : SubscriptionEvent} {org : Organization} {plan : Plan}
    {customer : Option Customer} {writes : Nat} (event : kind = .subscription e)
    (live : effectOf e.status = .live) (stored : s.organization? e.address = some org)
    (sold : s.planOfProduct? e.productId = some plan)
    (heard : customer = none ∨ customer = p.knows e.customer)
    (changed : ¬(liveSubscription e plan org.subscription customer).agrees org.subscription) :
    Attempted p kind s ((s.putSubscription org
      (liveSubscription e plan org.subscription customer)).counting writes)

variable {p : Provider} {kind : EventKind} {s t : Store}

theorem Attempted.sound (hs : s.Sound) (h : Attempted p kind s t) : t.Sound := by
  cases h with
  | untouched => exact hs
  | written =>
    exact ⟨(hs.putSubscription _).organization, hs.plan, hs.planId, hs.lastPlanId, hs.snapshot⟩

/-- The organization that was given a subscription. -/
theorem organization?_put {org : Organization} {address : String} (subscription : Subscription)
    (writes : Nat) (h : org.address = address) :
    ((s.putSubscription org subscription).counting writes).organization? address =
      some { org with subscription } := by
  subst h
  exact Table.get?_insert_self _ _ _

/-- Of two subscriptions given one after the other, the later stays. -/
theorem put_put {org : Organization} {a b : Subscription} {writes : Nat} :
    ((s.putSubscription org a).counting writes).putSubscription { org with subscription := a } b =
      (s.putSubscription org b).counting (writes + 1) := by
  simp only [Store.putSubscription, Store.counting, Table.insert_insert]

/-- A record that is new without the customer is new with it. -/
theorem changed_over {e : SubscriptionEvent} {plan : Plan} {previous : Subscription}
    {seen customer : Option Customer} (hseen : seen = none ∨ seen = customer)
    (changed : ¬(liveSubscription e plan previous seen).agrees previous) :
    ¬(liveSubscription e plan previous customer).agrees previous := by
  intro h
  rcases hseen with rfl | rfl
  · exact changed (agrees_of_live h)
  · exact changed h

/-- A further failed attempt leaves nothing of another kind. -/
theorem Attempted.half {scene : Scene} {e : SubscriptionEvent} {f : Failure} {t' : Store}
    (hs : s.Sound) (h : Attempted p kind s t) (hk : kind = .subscription e)
    (hstore : scene.store = t) (hknows : scene.provider.knows e.customer = p.knows e.customer)
    (half : HalfApplied True scene e f t') : Attempted p kind s t' := by
  obtain ⟨-, live, -, -, org', plan', horg', hplan', rfl⟩ := half
  have heard := scene.provider.resolve_or e.customer
  rw [hknows] at heard
  generalize scene.provider.resolve e.customer = customer at heard ⊢
  rw [hstore] at horg' hplan' ⊢
  cases h with
  | untouched =>
    unfold Store.assign
    split
    · exact .untouched
    · rename_i changed
      exact .written hk live horg' hplan' heard changed
  | @written e₁ org plan seen writes event _ stored sold hseen changed =>
    obtain rfl : e₁ = e := EventKind.subscription.inj (event.symm.trans hk)
    rw [organization?_put _ _ (hs.organization _ _ stored)] at horg'
    obtain rfl := Option.some.inj horg'
    obtain rfl : plan = plan' := Option.some.inj (sold.symm.trans hplan')
    unfold Store.assign
    split
    · exact .written event live stored sold hseen changed
    · rename_i differs
      rcases heard with rfl | rfl
      · exact absurd (Subscription.agrees_refl _) differs
      · rw [put_put, live_over hseen]
        exact .written event live stored sold (Or.inr rfl) (changed_over hseen changed)

/-- A period is opened alike in stores that are alike, whatever id its snapshot is given. -/
theorem alike_withBaseline (s t : Store) (organizations : t.organizations = s.organizations)
    (plans : t.plans = s.plans) (snapshots : t.snapshots = s.snapshots) (org : Organization)
    (now : DateTime) (id id' : Uuid) :
    (s.withBaseline org now id).Alike (t.withBaseline org now id') := by
  unfold Store.withBaseline
  cases currentPeriod? org.subscription now with
  | none => exact ⟨organizations, plans, fun k => by rw [snapshots]⟩
  | some window =>
    have hkey : (Store.baseline org window now id').key = (Store.baseline org window now id).key :=
      rfl
    dsimp only [Store.openSnapshot]
    rw [hkey, snapshots]
    cases s.snapshots.get? (Store.baseline org window now id).key with
    | some stored => exact ⟨organizations, plans, fun k => by rw [snapshots]⟩
    | none =>
      refine ⟨organizations, plans, fun k => ?_⟩
      simp only [Table.get?_insert]
      split <;> rfl

theorem alike_liveStore {s t : Store} {e : SubscriptionEvent} {org org' : Organization}
    {subscription : Subscription} {writes : Nat}
    (written : t.assign org' subscription = (s.assign org subscription).counting writes)
    (same : { org' with subscription } = { org with subscription }) (now : DateTime)
    (id id' : Uuid) :
    (liveStore s now id org e subscription).Alike (liveStore t now id' org' e subscription) := by
  unfold liveStore
  rw [written, same]
  split
  · refine alike_withBaseline _ _ ?_ ?_ ?_ _ _ _ _ <;> rfl
  · exact ⟨rfl, rfl, fun _ => rfl⟩

/-- What settling comes to in either of two stores, the ids of snapshots apart: stores that are
alike, or the same error, and then the stores were the same. -/
def SameSettled (s t : Store) : Except BillingError Store → Except BillingError Store → Prop
  | .ok s', .ok t' => s'.Alike t'
  | .error a, .error b => a = b ∧ t = s
  | _, _ => False

theorem sameSettled_refl (s : Store) (x : Except BillingError Store) : SameSettled s s x x := by
  cases x with
  | ok s => exact ⟨rfl, rfl, fun _ => rfl⟩
  | error b => exact ⟨rfl, rfl⟩

variable {q q' : Provider}

/-- Settling an event does not depend on the id of the snapshot it opens, nor on anything of a
provider that answers but what it knows and sells. -/
theorem sameSettled_settle {now : DateTime} (hq : q.outages = .none) (hq' : q'.outages = .none)
    (customers : q'.customers = q.customers) (catalog : q'.catalog = q.catalog) (id id' : Uuid) :
    SameSettled s s (Delivery.settle s now q id kind) (Delivery.settle s now q' id' kind) := by
  cases kind with
  | subscription e =>
    have hknows : q'.resolve e.customer = q.resolve e.customer := by
      rw [Provider.resolve_of_calm hq, Provider.resolve_of_calm hq']
      simp only [Provider.knows, customers]
    simp only [Delivery.settle, hknows]
    unfold settleSubscription
    cases s.organization? e.address with
    | none => exact sameSettled_refl _ _
    | some org =>
      dsimp only
      cases effectOf e.status with
      | live =>
        unfold settleLive
        dsimp only
        cases s.planOfProduct? e.productId with
        | none => exact sameSettled_refl _ _
        | some plan => exact alike_liveStore rfl rfl now id id'
      | ended => exact sameSettled_refl _ _
      | nothing => exact sameSettled_refl _ _
  | invoice e => exact sameSettled_refl _ _
  | product e =>
    have hsells : q'.offer e.productId = q.offer e.productId := by
      rw [Provider.offer_of_calm hq, Provider.offer_of_calm hq']
      simp only [Provider.sells, catalog]
    simp only [Delivery.settle, hsells]
    exact sameSettled_refl _ _
  | unhandled => exact sameSettled_refl _ _

/-- Giving the record made with the customer over one that was left behind comes to giving it
at once. -/
theorem assign_over {e : SubscriptionEvent} {org : Organization} {plan : Plan}
    {customer : Option Customer} (seen : Option Customer) (writes : Nat)
    (changed : ¬(liveSubscription e plan org.subscription customer).agrees org.subscription) :
    ∃ writes', ((s.putSubscription org
        (liveSubscription e plan org.subscription seen)).counting writes).assign
        { org with subscription := liveSubscription e plan org.subscription seen }
        (liveSubscription e plan org.subscription customer) =
      (s.assign org (liveSubscription e plan org.subscription customer)).counting writes' := by
  unfold Store.assign
  rw [if_neg changed]
  split
  · rename_i same
    rw [live_eq_of_agrees same]
    exact ⟨writes, rfl⟩
  · exact ⟨writes + 1, put_put⟩

/-- The attempt that goes through settles the event as it would have been settled at once. -/
theorem Attempted.settle (now : DateTime) (hs : s.Sound) (h : Attempted p kind s t)
    (hq : q.outages = .none) (hq' : q'.outages = .none) (knows : q.customers = p.customers)
    (customers : q'.customers = q.customers) (catalog : q'.catalog = q.catalog) (id id' : Uuid) :
    SameSettled s t (Delivery.settle s now q id kind) (Delivery.settle t now q' id' kind) := by
  cases h with
  | untouched => exact sameSettled_settle hq hq' customers catalog id id'
  | @written e org plan seen writes event live stored sold hseen changed =>
    subst event
    have hknows : p.knows e.customer = q.knows e.customer := by
      simp only [Provider.knows, knows]
    have hresolve : q'.resolve e.customer = q.resolve e.customer := by
      rw [Provider.resolve_of_calm hq, Provider.resolve_of_calm hq']
      simp only [Provider.knows, customers]
    rw [hknows, ← Provider.resolve_of_calm hq] at hseen
    obtain ⟨writes', written⟩ := assign_over (s := s) seen writes (changed_over hseen changed)
    have stored' := organization?_put (s := s) (liveSubscription e plan org.subscription seen)
      writes (hs.organization _ _ stored)
    rw [Delivery.settle_live live stored sold, Delivery.settle_live live stored' sold, hresolve,
      live_over hseen]
    exact alike_liveStore written rfl now id id'

end Reconcile

/-! ## Attempts -/

/-- Which calls are going to fail. -/
structure Weather where
  store : Outages StoreOp
  ledger : Outages LedgerOp
  provider : Outages ProviderOp
  poolClosed : Bool

def Weather.calm : Weather := ⟨.none, .none, .none, false⟩

namespace World
variable {w u v : World} {event : Event}

/-- The same world in some weather, with a ledger that answers for itself when it answers. -/
def under (w : World) (weather : Weather) : World :=
  { w with
    desk := { w.desk with outages := weather.store }
    ledger := { w.ledger with outages := weather.ledger, script := [] }
    provider := { w.provider with outages := weather.provider }
    poolClosed := weather.poolClosed }

/-- Deliveries of an event lead from one world to another, and every one of them failed. -/
inductive FailedAttempts (event : Event) (w : World) : World → Prop
  | none : FailedAttempts event w w
  | again {u v : World} {weather : Weather} {f : Failure} (before : FailedAttempts event w u)
    (failed : (u.under weather).run (Delivery.handle event) = (.error f, v)) :
    FailedAttempts event w v

theorem FailedAttempts.once {weather : Weather} {f : Failure}
    (failed : ((w.under weather).run (Delivery.handle event)).1 = .error f) :
    FailedAttempts event w ((w.under weather).run (Delivery.handle event)).2 :=
  .again .none (Prod.ext failed rfl)

/-- What is left after failed attempts. -/
structure Retrying (w : World) (event : Event) (v : World) : Prop where
  store : Reconcile.Attempted w.provider event.kind w.store v.store
  frame : w.scene.Frame v.scene

theorem Retrying.again {weather : Weather} {f : Failure} (hs : w.store.Sound)
    (h : w.Retrying event u)
    (failed : (u.under weather).run (Delivery.handle event) = (.error f, v)) :
    w.Retrying event v := by
  have hframe : w.scene.Frame (u.under weather).scene :=
    ⟨h.frame.ledger, h.frame.customers, h.frame.catalog, h.frame.clock, h.frame.now⟩
  refine ⟨?_, hframe.trans (frame_of_error failed)⟩
  rcases handled failed with ⟨-, handled⟩ | ⟨-, rfl⟩
  · have sound : (u.under weather).store.Sound := h.store.sound hs
    rcases handled.store_of_error sound with same | ⟨e, hk, -, half⟩
    · have hstore : v.store = u.store := same
      exact hstore ▸ h.store
    · have hcustomers := hframe.customers
      refine h.store.half hs hk rfl ?_ half
      simp only [Provider.knows, hcustomers]
      rfl
  · exact h.store

theorem FailedAttempts.retrying (hs : w.store.Sound) (h : FailedAttempts event w v) :
    w.Retrying event v := by
  induction h with
  | none => exact ⟨.untouched, .refl _⟩
  | again before failed ih => exact ih.again hs failed

/-- A delivery in calm weather settles its event and marks it, or is refused. -/
theorem run_calm (hs : w.store.Sound) (new : w.ledger.ledger.isMarked w.clock event.id = false) :
    let x := (w.under .calm).run (Delivery.handle event)
    ∃ id, (Delivery.settle w.store w.now (w.under .calm).provider id event.kind = .ok x.2.store ∧
        x.1 = .ok (Delivery.taken event.kind) ∧
        x.2.ledger.ledger = w.ledger.ledger.mark w.clock event.id) ∨
      ∃ b, Delivery.settle w.store w.now (w.under .calm).provider id event.kind = .error b ∧
        x.1 = .error (.error b) ∧ x.2.store = w.store ∧ x.2.ledger.ledger = w.ledger.ledger := by
  intro x
  have plain : (w.under .calm).ledger.IsPlain := ⟨rfl, rfl⟩
  have admits : (w.under .calm).ledger.Admits w.clock event.id := plain.admits_iff.mpr new
  have hopen : (w.under .calm).Open False := ⟨rfl, Or.inr rfl⟩
  have handled := Delivery.gives_handle (run_gives (Delivery.handle event) hopen)
  obtain ⟨id, ⟨done, answer, mark⟩ | ⟨b, error, answer, same, frame⟩⟩ := handled.calm hs admits
  · exact ⟨id, Or.inl ⟨done, answer, mark.trans (Delivery.marked_of_isPlain plain _ _)⟩⟩
  · exact ⟨id, Or.inr ⟨b, error, answer, same, frame.ledger⟩⟩

/-- However often a delivery failed, and of whatever, the delivery that goes through in the
end answers and leaves what a delivery that goes through at once answers and leaves. -/
theorem retry_converges (sound : w.store.Sound)
    (new : w.ledger.ledger.isMarked w.clock event.id = false)
    (attempts : FailedAttempts event w v) :
    let once := (w.under .calm).run (Delivery.handle event)
    let retried := (v.under .calm).run (Delivery.handle event)
    retried.1 = once.1 ∧ once.2.store.Alike retried.2.store ∧
      retried.2.ledger.ledger = once.2.ledger.ledger := by
  intro once retried
  have retrying := attempts.retrying sound
  have hledger : v.ledger.ledger = w.ledger.ledger := retrying.frame.ledger
  have hclock : v.clock = w.clock := retrying.frame.clock
  have hnow : v.now = w.now := retrying.frame.now
  have hnew : v.ledger.ledger.isMarked v.clock event.id = false := by
    rw [hledger, hclock]
    exact new
  have hprovider : (w.under .calm).provider.outages = .none := rfl
  have hprovider' : (v.under .calm).provider.outages = .none := rfl
  obtain ⟨id, honce⟩ := run_calm sound new
  obtain ⟨id', hretried⟩ := run_calm (retrying.store.sound sound) hnew
  have same := retrying.store.settle w.now sound hprovider hprovider' rfl
    retrying.frame.customers retrying.frame.catalog id id'
  rw [hnow] at hretried
  rcases honce with ⟨done, answer, mark⟩ | ⟨b, error, answer, store, ledger⟩
  · rcases hretried with ⟨done', answer', mark'⟩ | ⟨b', error', -⟩
    · rw [done, done'] at same
      exact ⟨answer'.trans answer.symm, same, by rw [mark', mark, hledger, hclock]⟩
    · rw [done, error'] at same
      exact same.elim
  · rcases hretried with ⟨done', -⟩ | ⟨b', error', answer', store', ledger'⟩
    · rw [error, done'] at same
      exact same.elim
    · rw [error, error'] at same
      obtain ⟨rfl, hstore⟩ := same
      have hsame : retried.2.store = once.2.store := (store'.trans hstore).trans store.symm
      refine ⟨answer'.trans answer.symm, ?_, by rw [ledger', ledger, hledger]⟩
      rw [hsame]
      exact ⟨rfl, rfl, fun _ => rfl⟩

/-- A year's subscription whose period could not be opened at first ends as one whose period
was opened at once. -/
theorem subscribed_at_last :
    let stormy : Weather := ⟨Outages.none.failNext .openSnapshot 1, .none, .none, false⟩
    let v := ((sample.under stormy).run (Delivery.handle sampleSubscribed)).2
    let once := (sample.under .calm).run (Delivery.handle sampleSubscribed)
    let retried := (v.under .calm).run (Delivery.handle sampleSubscribed)
    retried.1 = once.1 ∧ once.2.store.Alike retried.2.store ∧
      retried.2.ledger.ledger = once.2.ledger.ledger := by
  intro stormy v
  have failed : ((sample.under stormy).run (Delivery.handle sampleSubscribed)).1 =
      .error (.storeDown .openSnapshot) := by decide +kernel
  exact retry_converges Store.sample_sound (by decide) (.once failed)

end World

end TenantBilling
