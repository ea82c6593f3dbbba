import TenantBilling.Proofs.Execution
import TenantBilling.Proofs.StoreInvariant
import TenantBilling.Service

/-! Runs of a service, operation by operation. A run is a list of operations carried out in
turn; its history says of each what was asked, what the answer was and when. Around the
operations of the service stand those of others: writes to the store, failures to come, and
the passing of time. -/

namespace TenantBilling

open Calendar

inductive Operation where
  /-- An event whose origin is beyond doubt. -/
  | deliver (event : Event)
  /-- A payload with its signature header. -/
  | receive (payload : List UInt8) (header : String)
  | sweep
  | evictLocks
  | checkTx (allowance : Int) (tx : TxRequest) (address : String) (role : Role)
  | checkQuota (allowance : Int) (address : String) (role : Role) (action : QuotaAction)
  | usage (address : String)
  /-- A call to the store from outside the service. -/
  | call (c : StoreCall)
  /-- A change of the store that no call makes. -/
  | edit (change : Store → Store)
  /-- Says which of the calls to come will fail. -/
  | plan (store : Outages StoreOp) (provider : Outages ProviderOp)
  | setClock (clock : DateTime)

/-- An operation that makes no calls: it happens around the service. -/
def Operation.IsAround : Operation → Prop
  | .evictLocks => True
  | .edit _ => True
  | .plan _ _ => True
  | .setClock _ => True
  | _ => False

/-- The time after an operation that began at some time. -/
def Operation.clock (now : DateTime) : Operation → DateTime
  | .setClock clock => clock
  | _ => now

/-- Whether the clock is never set back, from a time on. -/
def NeverBack (now : DateTime) : List Operation → Prop
  | [] => True
  | op :: ops => now ≤ op.clock now ∧ NeverBack (op.clock now) ops

inductive Reply where
  | delivery (r : Except Failure DeliveryOutcome)
  | purge (r : Except Failure Nat)
  | eviction (removed : Nat)
  | permission (r : Except Failure Permission)
  | usage (r : Except Failure PeriodUsage)
  | call (c : StoreCall) (r : Except StoreError c.Answer)
  | nothing

/-- An operation as it went. -/
structure Entry where
  operation : Operation
  /-- The event of a delivery whose signature is in order. -/
  event : Option Event
  reply : Reply
  /-- The time on the clock of the ledger. -/
  clock : DateTime
  /-- The time on the clock of everything else. -/
  now : DateTime

/-- The event that an entry had recorded, if it had one recorded. -/
def Entry.recorded? (e : Entry) : Option String :=
  match e.reply with
  | .delivery (.ok .processed) => e.event.map (·.id)
  | .delivery (.ok .ignored) => e.event.map (·.id)
  | _ => none

namespace World

def event? (w : World) : Operation → Option Event
  | .deliver event => some event
  | .receive payload header => (w.provider.verify w.clock.unix payload header).toOption
  | _ => none

def step (w : World) : Operation → Reply × World
  | .deliver event => (w.run (Delivery.handle event)).map .delivery id
  | .receive payload header => (w.run (Delivery.process payload header)).map .delivery id
  | .sweep => (w.answer (.ledger .purge)).map .purge id
  | .evictLocks => w.evictLocks.map .eviction id
  | .checkTx allowance tx address role =>
    (w.run (Entitlement.checkTx allowance tx address role)).map .permission id
  | .checkQuota allowance address role action =>
    (w.run (Entitlement.checkQuota allowance address role action)).map .permission id
  | .usage address => (w.run (Usage.ofAddress address)).map .usage id
  | .call c => (w.answer (.store c)).map (.call c) id
  | .edit change => (.nothing, w.withStore (change w.store))
  | .plan store provider => (.nothing, { w with
      desk := { w.desk with outages := store }
      provider := { w.provider with outages := provider } })
  | .setClock clock => (.nothing, { w with clock })

/-- The entry of an operation in the history. -/
def entry (w : World) (op : Operation) : Entry := ⟨op, w.event? op, (w.step op).1, w.clock, w.now⟩

/-- The world after a run. -/
def after (w : World) : List Operation → World
  | [] => w
  | op :: ops => (w.step op).2.after ops

def history (w : World) : List Operation → List Entry
  | [] => []
  | op :: ops => w.entry op :: (w.step op).2.history ops

theorem after_append (w : World) (ops rest : List Operation) :
    w.after (ops ++ rest) = (w.after ops).after rest := by
  induction ops generalizing w with
  | nil => rfl
  | cons op ops ih => exact ih _

/-- What every call keeps, an operation keeps that makes only calls. -/
theorem step_keeps (inv : World → Prop) (keeps : ∀ w c, inv w → inv (w.answer c).2)
    (op : Operation) (around : ∀ w, op.IsAround → inv w → inv (w.step op).2) {w : World}
    (hw : inv w) : inv (w.step op).2 := by
  cases op with
  | deliver event => exact run_keeps inv keeps (Delivery.handle event) hw
  | receive payload header => exact run_keeps inv keeps (Delivery.process payload header) hw
  | sweep => exact keeps w (.ledger .purge) hw
  | checkTx allowance tx address role =>
    exact run_keeps inv keeps (Entitlement.checkTx allowance tx address role) hw
  | checkQuota allowance address role action =>
    exact run_keeps inv keeps (Entitlement.checkQuota allowance address role action) hw
  | usage address => exact run_keeps inv keeps (Usage.ofAddress address) hw
  | call c => exact keeps w (.store c) hw
  | _ => exact around w trivial hw

theorem clock_answer (w : World) (c : Call) : (w.answer c).2.clock = w.clock := by
  cases c with
  | store c =>
    simp only [answer]
    split <;> rfl
  | ledger c =>
    simp only [answer]
    split <;> rfl
  | _ => rfl

theorem pool_answer (w : World) (c : Call) : (w.answer c).2.poolClosed = w.poolClosed := by
  cases c with
  | store c =>
    simp only [answer]
    split <;> rfl
  | ledger c =>
    simp only [answer]
    split <;> rfl
  | _ => rfl

theorem clock_run {α : Type} (w : World) (x : Action α) : (w.run x).2.clock = w.clock :=
  run_keeps (fun u => u.clock = w.clock) (fun u c hu => (clock_answer u c).trans hu) x rfl

/-- Time passes only between operations. -/
theorem clock_step (w : World) (op : Operation) : (w.step op).2.clock = op.clock w.clock := by
  cases op with
  | setClock clock => rfl
  | _ =>
    refine step_keeps (fun u => u.clock = w.clock)
      (fun u c hu => (clock_answer u c).trans hu) _ (fun u hop hu => ?_) rfl
    first | exact hu | cases hop

theorem pool_step (w : World) (op : Operation) :
    (w.step op).2.poolClosed = w.poolClosed := by
  refine step_keeps (fun u => u.poolClosed = w.poolClosed)
    (fun u c hu => (pool_answer u c).trans hu) op (fun u around hu => ?_) rfl
  cases op <;> first | exact hu | cases around

/-- The store is changed by calls to the store that it answers. -/
theorem store_answer (w : World) (c : Call) :
    (w.answer c).2.store = w.store ∨
      ∃ d, c = .store d ∧ (w.answer c).2.store = (w.store.answer d).2 := by
  cases c with
  | store d =>
    by_cases pool : w.poolClosed = true
    · left
      simp [answer, pool]
    · by_cases fails : (w.desk.outages.strike d.op).1 = true
      · left
        simp [answer, pool, StoreDesk.answer, fails, store]
      · right
        exact ⟨d, rfl, by simp [answer, pool, StoreDesk.answer, fails, store]⟩
  | ledger d =>
    left
    simp only [answer]
    split <;> rfl
  | _ => exact Or.inl rfl

theorem sound_answer (w : World) (c : Call) (h : w.store.Sound) : (w.answer c).2.store.Sound := by
  rcases store_answer w c with same | ⟨d, -, answered⟩
  · exact same ▸ h
  · exact answered ▸ h.answer d

/-- No program breaks what every store keeps. -/
theorem sound_run {α : Type} (x : Action α) {w : World} (h : w.store.Sound) :
    (w.run x).2.store.Sound := run_keeps (fun u => u.store.Sound) sound_answer x h

/-- What every operation keeps, a run keeps. -/
theorem after_keeps (inv : World → Prop) {ops : List Operation}
    (keeps : ∀ w op, op ∈ ops → inv w → inv (w.step op).2) {w : World} (hw : inv w) :
    inv (w.after ops) := by
  induction ops generalizing w with
  | nil => exact hw
  | cons op ops ih =>
    exact ih (fun u o ho => keeps u o (List.mem_cons_of_mem _ ho))
      (keeps w op List.mem_cons_self hw)

/-- A verified payload is handled as its event is. -/
theorem run_process {w : World} {payload : List UInt8} {header : String} {event : Event}
    (h : w.event? (.receive payload header) = some event) :
    w.run (Delivery.process payload header) = w.run (Delivery.handle event) := by
  unfold Delivery.process
  rw [run_bind, run_verify]
  simp only [event?] at h
  cases hv : w.provider.verify w.clock.unix payload header with
  | error e =>
    rw [hv] at h
    cases h
  | ok verified =>
    rw [hv] at h
    cases h
    rfl

/-- A payload that is not in order changes nothing. -/
theorem run_process_none {w : World} {payload : List UInt8} {header : String}
    (h : w.event? (.receive payload header) = none) :
    ∃ e, w.provider.verify w.clock.unix payload header = .error e ∧
      w.run (Delivery.process payload header) = (.error (.error e), w) := by
  unfold Delivery.process
  rw [run_bind, run_verify]
  simp only [event?] at h
  cases hv : w.provider.verify w.clock.unix payload header with
  | error e => exact ⟨e, rfl, rfl⟩
  | ok verified =>
    rw [hv] at h
    cases h

/-- An operation that delivers an event handles it. -/
theorem step_of_event? {w : World} {op : Operation} {event : Event}
    (h : w.event? op = some event) :
    w.step op = (w.run (Delivery.handle event)).map .delivery id := by
  cases op with
  | deliver e =>
    cases h
    rfl
  | receive payload header => simp only [step, run_process h]
  | _ => cases h

theorem step_of_run {w u : World} {op : Operation} {event : Event}
    {r : Except Failure DeliveryOutcome} (he : w.event? op = some event)
    (h : w.run (Delivery.handle event) = (r, u)) : w.step op = (.delivery r, u) := by
  rw [step_of_event? he, h]
  rfl

/-- A delivery without an event is refused, and changes nothing. -/
theorem step_of_event?_none {w u : World} {op : Operation} {r : Except Failure DeliveryOutcome}
    (h : w.event? op = none) (hstep : w.step op = (.delivery r, u)) :
    (∃ f, r = .error f) ∧ u = w := by
  have hreply := congrArg Prod.fst hstep
  cases op with
  | deliver event => cases h
  | receive payload header =>
    obtain ⟨e, -, hrun⟩ := run_process_none h
    simp only [step, hrun] at hstep
    obtain ⟨hr, hu⟩ := Prod.mk.inj hstep
    exact ⟨⟨_, (Reply.delivery.inj hr).symm⟩, hu.symm⟩
  | _ => cases hreply

/-- An entry records the event of its delivery, if the delivery took it in. -/
theorem entry_recorded?_iff {w : World} {op : Operation} {id : String} :
    (w.entry op).recorded? = some id ↔ ∃ event outcome, w.event? op = some event ∧
      event.id = id ∧ (w.run (Delivery.handle event)).1 = .ok outcome ∧
      (outcome = .processed ∨ outcome = .ignored) := by
  unfold Entry.recorded? entry
  dsimp only
  constructor
  · intro h
    cases he : w.event? op with
    | none =>
      rw [he] at h
      split at h <;> cases h
    | some event =>
      rw [he, step_of_event? he] at h
      split at h
      · rename_i hr
        exact ⟨event, _, rfl, Option.some.inj h, Reply.delivery.inj hr, Or.inl rfl⟩
      · rename_i hr
        exact ⟨event, _, rfl, Option.some.inj h, Reply.delivery.inj hr, Or.inr rfl⟩
      · cases h
  · rintro ⟨event, outcome, he, rfl, hrun, rfl | rfl⟩
    · rw [he, step_of_event? he]
      simp only [Prod.map, hrun, Option.map_some]
    · rw [he, step_of_event? he]
      simp only [Prod.map, hrun, Option.map_some]

end World

/-! ## A small service -/

/-- The first moment of a year. -/
def newYear (year : Int) (h : leastYear ≤ year ∧ year ≤ greatestYear) : DateTime where
  date := ⟨year, 1, h.1, h.2, by decide, by unfold daysInYear; split <;> decide⟩
  second := 0
  nano := 0
  offset := .utc
  second_lt := by decide
  nano_lt := by decide

/-- The end of a year in UTC as it is written an hour west of it, in the last hour of that year. -/
def newYearWest (year : Int) (h : leastYear ≤ year ∧ year ≤ greatestYear) : DateTime where
  date := ⟨year, daysInYear year, h.1, h.2, by unfold daysInYear; split <;> omega, Nat.le_refl _⟩
  second := 82800
  nano := 0
  offset := ⟨-3600, by omega, by omega⟩
  second_lt := by decide
  nano_lt := by decide

/-- One organization, a default plan and one that is sold. -/
def Store.sample : Store :=
  (((default : Store).setOrganization ⟨"0xa1", default, default⟩).setPlan
    { (default : Plan) with name := "Free", isDefault := true }).1.setPlan
      { (default : Plan) with name := "Pro", productId := "prod_pro" } |>.1

theorem Store.sample_sound : Store.sample.Sound :=
  ((Store.Sound.initial.setOrganization _).setPlan _).setPlan _

/-- A service over that store in 2024, whose marks count for an hour. -/
def World.sample : World :=
  (World.new (newYear 2024 (by decide)) (.new (.new 3600000000000) false)
    (.new "secret" 300)).withStore .sample

/-- A payment of the organization. -/
def samplePayment : Event :=
  ⟨"evt_1", "invoice.payment_succeeded", 0, .invoice ⟨"in_1", "0xa1", newYear 2024 (by decide)⟩⟩

/-- The organization subscribes for a year. -/
def sampleSubscription : SubscriptionEvent where
  subscriptionId := "sub_1"
  customer := ⟨"cus_1", some "owner", some ∅⟩
  status := .active
  productId := "prod_pro"
  period := .annual
  periodStart := newYear 2024 (by decide)
  periodEnd := newYear 2025 (by decide)
  address := "0xa1"

def sampleSubscribed : Event :=
  ⟨"evt_2", "customer.subscription.created", 0, .subscription sampleSubscription⟩

end TenantBilling
