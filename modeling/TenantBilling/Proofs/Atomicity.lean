import TenantBilling.Proofs.Handling
import TenantBilling.Proofs.History

/-! A delivery that fails leaves nothing behind, wherever it failed. The one exception is the
subscription of an annual plan, which is written before its period is opened: it stays, and it
is the record that the delivery would have left had it succeeded. An event is recorded only by
a delivery that took it in. -/

namespace TenantBilling

open Calendar

/-- All is as it was but the subscription of one organization. -/
structure Store.SameBut (address : String) (s t : Store) : Prop where
  plans : t.plans = s.plans
  lastPlanId : t.lastPlanId = s.lastPlanId
  snapshots : t.snapshots = s.snapshots
  counts : t.drafts = s.drafts ∧ t.members = s.members ∧ t.subOrgs = s.subOrgs
  others : ∀ a, a ≠ address → t.organization? a = s.organization? a
  counters : (t.organization? address).map (·.counters) = (s.organization? address).map (·.counters)

theorem Store.assign_sameBut {s : Store} {org : Organization}
    (h : s.organization? org.address = some org) (subscription : Subscription) :
    s.SameBut org.address (s.assign org subscription) := by
  unfold assign
  split
  · exact ⟨rfl, rfl, rfl, ⟨rfl, rfl, rfl⟩, fun _ _ => rfl, rfl⟩
  · refine ⟨rfl, rfl, rfl, ⟨rfl, rfl, rfl⟩, fun a ha => ?_, ?_⟩
    · exact Table.get?_insert_of_ne _ _ ha
    · have hput : (s.putSubscription org subscription).organization? org.address =
          some { org with subscription } := Table.get?_insert_self _ _ _
      rw [h, hput]
      rfl

theorem Store.withBaseline_organizations (s : Store) (org : Organization) (now : DateTime)
    (id : Uuid) : (s.withBaseline org now id).organizations = s.organizations := by
  unfold withBaseline
  split
  · rfl
  · unfold openSnapshot
    split <;> rfl

theorem Reconcile.liveStore_organizations (s : Store) (now : DateTime) (id : Uuid)
    (org : Organization) (e : SubscriptionEvent) (subscription : Subscription) :
    (liveStore s now id org e subscription).organizations =
      (s.assign org subscription).organizations := by
  unfold liveStore
  split
  · exact Store.withBaseline_organizations _ _ _ _
  · rfl

/-- A half applied event would have been settled, and with the same subscription. -/
theorem HalfApplied.settle {mayFail : Prop} {s : Scene} {e : SubscriptionEvent} {f : Failure}
    {t : Store} (h : HalfApplied mayFail s e f t) (id : Uuid) :
    ∃ t', Delivery.settle s.store s.now s.provider id (.subscription e) = .ok t' ∧
      t'.organizations = t.organizations := by
  obtain ⟨-, live, -, -, org, plan, stored, sold, rfl⟩ := h
  exact ⟨_, Delivery.settle_live live stored sold, Reconcile.liveStore_organizations _ _ _ _ _ _⟩

namespace World

/-- The same world with a store that answers every call. -/
def answering (w : World) : World := { w with desk := { w.desk with outages := .none } }

theorem open_answering {w : World} (pool : w.poolClosed = false) : w.answering.Open False :=
  ⟨pool, Or.inr rfl⟩

/-- The subscription of an annual plan was written, and its period could not be opened. -/
structure HalfDone (w : World) (event : Event) (e : SubscriptionEvent) (f : Failure) (u : World) :
    Prop where
  kind : event.kind = .subscription e
  live : e.status = .active ∨ e.status = .trialing
  annual : e.period = .annual
  call : f = .storeDown .snapshot ∨ f = .storeDown .openSnapshot
  retryable : ∃ b, f = .error b ∧ b.isRetryable = true
  rest : w.store.SameBut e.address u.store
  /-- What is stored is what the delivery stores when the store answers throughout. -/
  whole : ∃ v, w.answering.run (Delivery.handle event) = (.ok .processed, v) ∧
    v.store.organizations = u.store.organizations

variable {w : World} {event : Event}

/-- A delivery goes through when the store answers, if only the period of an annual plan could
not be opened when it did not. -/
theorem answering_handle {e : SubscriptionEvent} {f : Failure} {t : Store} (hs : w.store.Sound)
    (hpool : w.poolClosed = false) (new : w.ledger.Admits w.clock event.id)
    (hk : event.kind = .subscription e) (half : HalfApplied True w.scene e f t) :
    ∃ v, w.answering.run (Delivery.handle event) = (.ok .processed, v) ∧
      v.store.organizations = t.organizations := by
  have handled := Delivery.gives_handle (run_gives (Delivery.handle event) (open_answering hpool))
  generalize w.answering.run (Delivery.handle event) = x at handled ⊢
  obtain ⟨r, v⟩ := x
  obtain ⟨id, ⟨done, rfl, -⟩ | ⟨b, error, -⟩⟩ := handled.calm hs new
  · obtain ⟨t', hsettle, ht'⟩ := half.settle id
    rw [hk] at done ⊢
    obtain rfl := Except.ok.inj (hsettle.symm.trans done)
    exact ⟨v, rfl, ht'⟩
  · obtain ⟨t', hsettle, -⟩ := half.settle id
    rw [hk] at error
    cases error.symm.trans hsettle

theorem halfDone {e : SubscriptionEvent} {f : Failure} {u : World} (hs : w.store.Sound)
    (hpool : w.poolClosed = false) (new : w.ledger.Admits w.clock event.id)
    (hk : event.kind = .subscription e) (half : HalfApplied True w.scene e f u.store) :
    w.HalfDone event e f u := by
  have whole := answering_handle hs hpool new hk half
  obtain ⟨-, live, annual, call, org, plan, horg, -, hstore⟩ := half
  refine ⟨hk, Reconcile.effectOf_eq_live_iff.mp live, annual, call, ?_, ?_, whole⟩
  · rcases call with rfl | rfl <;> exact ⟨_, rfl, rfl⟩
  · have haddress := hs.organization e.address org horg
    replace horg : w.store.organization? org.address = some org := haddress ▸ horg
    rw [hstore, ← haddress]
    exact Store.assign_sameBut horg _

/-- What a failed delivery leaves is nothing, or the subscription of an annual plan. -/
theorem store_of_error {f : Failure} {u : World} (hs : w.store.Sound)
    (h : w.run (Delivery.handle event) = (.error f, u)) :
    u.store = w.store ∨ ∃ e, w.HalfDone event e f u := by
  rcases handled h with ⟨hpool, handled⟩ | ⟨-, rfl⟩
  · rcases handled.store_of_error hs with same | ⟨e, hk, new, half⟩
    · exact Or.inl same
    · exact Or.inr ⟨e, halfDone hs hpool new hk half⟩
  · exact Or.inl rfl

theorem frame_of_error {f : Failure} {u : World}
    (h : w.run (Delivery.handle event) = (.error f, u)) : w.scene.Frame u.scene := by
  rcases handled h with ⟨-, handled⟩ | ⟨-, rfl⟩
  · exact handled.frame_of_error
  · exact .refl _

theorem ledger_of_taken {outcome : DeliveryOutcome} {u : World}
    (h : w.run (Delivery.handle event) = (.ok outcome, u))
    (ho : outcome = .processed ∨ outcome = .ignored) :
    u.ledger.ledger = Delivery.marked w.ledger w.clock event.id := by
  rcases handled h with ⟨-, handled⟩ | ⟨⟨f, hf⟩, -⟩
  · exact handled.marked ho
  · cases hf

theorem same_of_skipped {u : World}
    (h : w.run (Delivery.handle event) = (.ok .alreadyProcessed, u)) :
    u.ledger.ledger = w.ledger.ledger ∧ u.provider.customers = w.provider.customers ∧
      u.store = w.store := by
  rcases handled h with ⟨-, handled⟩ | ⟨⟨f, hf⟩, -⟩
  · obtain ⟨frame, same⟩ := handled.of_skipped
    exact ⟨frame.ledger, frame.customers, same⟩
  · cases hf

theorem get?_marked {d : LedgerDesk} {now : DateTime} {id other : String} {m : DateTime}
    (h : (Delivery.marked d now other).entries.get? id = some m) :
    d.ledger.entries.get? id = some m ∨ other = id := by
  unfold Delivery.marked at h
  split at h
  · exact Or.inl h
  · simp only [Ledger.mark, Table.get?_insert] at h
    split at h
    · rename_i hid
      exact Or.inr hid.symm
    · exact Or.inl h

/-- Queries leave the ledger alone. -/
theorem ledger_of_query {α : Type} {x : Action α} (hx : x.Within Call.IsQuery) (w : World) :
    (w.run x).2.ledger = w.ledger := by
  refine runProc_keeps (fun u => u.ledger = w.ledger) (fun u c hc hu => ?_) hx rfl
  cases c with
  | store c =>
    simp only [answer]
    split <;> exact hu
  | now => exact hu
  | freshId => exact hu
  | _ => cases hc

/-- A mark that handling an event leaves was there before, or the event was taken in. -/
theorem get?_of_handle {r : Except Failure DeliveryOutcome} {u : World} {id : String} {m : DateTime}
    (hrun : w.run (Delivery.handle event) = (r, u))
    (h : u.ledger.ledger.entries.get? id = some m) :
    w.ledger.ledger.entries.get? id = some m ∨
      (event.id = id ∧ ∃ outcome, r = .ok outcome ∧
        (outcome = .processed ∨ outcome = .ignored)) := by
  cases r with
  | error f => exact Or.inl ((frame_of_error hrun).ledger ▸ h)
  | ok outcome =>
    by_cases ho : outcome = .processed ∨ outcome = .ignored
    · rw [ledger_of_taken hrun ho] at h
      rcases get?_marked h with h | hid
      · exact Or.inl h
      · exact Or.inr ⟨hid, outcome, rfl, ho⟩
    · cases outcome with
      | alreadyProcessed => exact Or.inl ((same_of_skipped hrun).1 ▸ h)
      | processed => exact absurd (Or.inl rfl) ho
      | ignored => exact absurd (Or.inr rfl) ho

/-- A mark that an operation leaves was there before, or the operation recorded the event. -/
theorem get?_of_step {op : Operation} {id : String} {m : DateTime}
    (h : (w.step op).2.ledger.ledger.entries.get? id = some m) :
    w.ledger.ledger.entries.get? id = some m ∨ (w.entry op).recorded? = some id := by
  cases he : w.event? op with
  | some event =>
    rw [step_of_event? he] at h
    rcases get?_of_handle rfl h with h | ⟨hid, outcome, hrun, ho⟩
    · exact Or.inl h
    · exact Or.inr (entry_recorded?_iff.mpr ⟨event, outcome, he, hid, hrun, ho⟩)
  | none =>
    refine Or.inl ?_
    cases op with
    | deliver event => cases he
    | receive payload header =>
      obtain ⟨e, -, hrun⟩ := run_process_none he
      simp only [step, hrun] at h
      exact h
    | sweep =>
      simp only [step, answer] at h
      split at h
      · exact h
      · exact LedgerDesk.get?_of_answer_purge h
    | checkTx allowance tx address role =>
      exact ledger_of_query (Entitlement.checkTx_within allowance tx address role) w ▸ h
    | checkQuota allowance address role action =>
      exact ledger_of_query (Entitlement.checkQuota_within allowance address role action) w ▸ h
    | usage address => exact ledger_of_query (Usage.ofAddress_within address) w ▸ h
    | call c =>
      simp only [step, answer] at h
      split at h <;> exact h
    | _ => exact h

/-- A mark that a run leaves was there before, or a delivery recorded the event. -/
theorem get?_of_after {ops : List Operation} {id : String} {m : DateTime}
    (h : (w.after ops).ledger.ledger.entries.get? id = some m) :
    w.ledger.ledger.entries.get? id = some m ∨
      ∃ e ∈ w.history ops, e.recorded? = some id := by
  induction ops generalizing w with
  | nil => exact Or.inl h
  | cons op ops ih =>
    rcases ih h with h | ⟨e, he, hid⟩
    · rcases get?_of_step h with h | h
      · exact Or.inl h
      · exact Or.inr ⟨_, List.mem_cons_self, h⟩
    · exact Or.inr ⟨e, List.mem_cons_of_mem _ he, hid⟩

/-- A delivery is all or nothing, whatever calls fail. An error leaves ledger, store and
customers as they were, or leaves the whole subscription of an annual plan whose period could
not be opened. An event that was taken in is marked, unless each attempt at the mark fails; an
event that was skipped changes nothing. So a run that starts without marks ends with none but
those of events that a delivery took in. -/
theorem delivery_atomic :
    (∀ (w : World) (op : Operation) (r : Except Failure DeliveryOutcome) (u : World),
      w.store.Sound → w.step op = (.delivery r, u) →
      (∀ f, r = .error f →
        u.ledger.ledger = w.ledger.ledger ∧ u.provider.customers = w.provider.customers ∧
          (u.store = w.store ∨ ∃ event e, w.event? op = some event ∧ w.HalfDone event e f u)) ∧
      (∀ outcome, r = .ok outcome → outcome = .processed ∨ outcome = .ignored →
        ∃ event, w.event? op = some event ∧ (w.ledger.outages.allFail .mark 3 = false →
          u.ledger.ledger.entries.get? event.id = some w.clock)) ∧
      (r = .ok .alreadyProcessed →
        u.ledger.ledger = w.ledger.ledger ∧ u.provider.customers = w.provider.customers ∧
          u.store = w.store)) ∧
    ∀ (w : World) (ops : List Operation), w.ledger.ledger.entries = ∅ →
      ∀ id m, (w.after ops).ledger.ledger.entries.get? id = some m →
        ∃ e ∈ w.history ops, e.recorded? = some id := by
  refine ⟨fun w op r u hs h => ?_, fun w ops hempty id m h => ?_⟩
  · cases he : w.event? op with
    | none =>
      obtain ⟨⟨f, rfl⟩, rfl⟩ := step_of_event?_none he h
      exact ⟨fun _ _ => ⟨rfl, rfl, Or.inl rfl⟩, fun _ hf => (nomatch hf), fun hf => (nomatch hf)⟩
    | some event =>
      rw [step_of_event? he] at h
      obtain ⟨hr, hu⟩ := Prod.ext_iff.mp h
      have hrun : w.run (Delivery.handle event) = (r, u) := Prod.ext (Reply.delivery.inj hr) hu
      refine ⟨?_, ?_, ?_⟩
      · rintro f rfl
        have frame := frame_of_error hrun
        refine ⟨frame.ledger, frame.customers, (store_of_error hs hrun).imp_right ?_⟩
        rintro ⟨e, half⟩
        exact ⟨event, e, rfl, half⟩
      · rintro outcome rfl ho
        refine ⟨event, rfl, fun hmark => ?_⟩
        rw [ledger_of_taken hrun ho, Delivery.marked, Delivery.markAttempts, hmark]
        exact Table.get?_insert_self _ _ _
      · rintro rfl
        exact same_of_skipped hrun
  · rcases get?_of_after h with h | h
    · rw [hempty] at h
      cases h
    · exact h

/-- A subscription for a year whose period could not be opened leaves ledger and customers as
they were, and a payment that was marked was delivered. -/
theorem subscribed_in_part :
    let w := (World.sample.step (.plan (Outages.none.failNext .openSnapshot 1) .none)).2
    let u := (w.run (Delivery.handle sampleSubscribed)).2
    (u.ledger.ledger = w.ledger.ledger ∧ u.provider.customers = w.provider.customers ∧
      (u.store = w.store ∨ ∃ event e, w.event? (.deliver sampleSubscribed) = some event ∧
        w.HalfDone event e (.storeDown .openSnapshot) u)) ∧
    ∃ e ∈ w.history [.deliver samplePayment, .sweep], e.recorded? = some "evt_1" := by
  intro w u
  have failed : (w.run (Delivery.handle sampleSubscribed)).1 =
      .error (.storeDown .openSnapshot) := by decide +kernel
  have marked : (w.after [.deliver samplePayment, .sweep]).ledger.ledger.entries.get? "evt_1" =
      some (newYear 2024 (by decide)) := by decide +kernel
  have sound : w.store.Sound := Store.sample_sound
  have unmarked : w.ledger.ledger.entries = ∅ := rfl
  clear_value w
  exact ⟨(delivery_atomic.1 w (.deliver sampleSubscribed) _ u sound
      (step_of_run rfl (Prod.ext failed rfl))).1 _ rfl,
    delivery_atomic.2 w _ unmarked _ _ marked⟩

end World

end TenantBilling
