import TenantBilling.Proofs.ClosedForm
import TenantBilling.Proofs.Openings

/-! Baselines over runs. The snapshot of a period is taken by the first operation that looks at
the period, from the counters that the organization has then; it is never taken again, changed or
removed. So the usage of a period is what came on top of those counters, at any later time. -/

namespace TenantBilling

open Calendar

/-! ## What an operation does to snapshots -/

namespace Store
variable {s t : Store} {org : Organization} {now : DateTime} {id : Uuid}

/-- The snapshots that were there stay, and one that is new has the counters that its
organization had before. -/
def Grown (s t : Store) : Prop :=
  ∀ k, t.snapshots.get? k = s.snapshots.get? k ∨
    (s.snapshots.get? k = none ∧ ∃ x org, t.snapshots.get? k = some x ∧
      s.organization? k.address = some org ∧ x.baseline = org.counters)

theorem grown_of_same (h : t.snapshots = s.snapshots) : s.Grown t := by
  intro k
  rw [h]
  exact Or.inl rfl

theorem Grown.stays {k : SnapshotKey} {x : Snapshot} (h : s.Grown t)
    (hx : s.snapshots.get? k = some x) : t.snapshots.get? k = some x := by
  rcases h k with same | ⟨fresh, -⟩
  · rw [same, hx]
  · rw [fresh] at hx
    cases hx

/-- One snapshot more, of an organization with the counters it had at first. -/
theorem Grown.openSnapshot {x : Snapshot} (h : s.Grown t)
    (stored : s.organization? x.address = some org) (hx : x.baseline = org.counters) :
    s.Grown (t.openSnapshot x).1 := by
  unfold Store.openSnapshot
  split
  · exact h
  · rename_i fresh
    intro k
    by_cases hk : k = x.key
    · subst hk
      refine Or.inr ⟨?_, x, org, Table.get?_insert_self _ _ _, stored, hx⟩
      rcases h x.key with same | ⟨absent, -⟩
      · rw [← same]
        exact fresh
      · exact absent
    · dsimp only
      rw [Table.get?_insert_of_ne _ _ hk]
      exact h k

theorem assign_snapshots (s : Store) (org : Organization) (subscription : Subscription) :
    (s.assign org subscription).snapshots = s.snapshots := by
  unfold assign
  split <;> rfl

theorem grown_liveStore (stored : s.organization? org.address = some org)
    (e : SubscriptionEvent) (subscription : Subscription) :
    s.Grown (Reconcile.liveStore s now id org e subscription) := by
  have hassign : s.Grown (s.assign org subscription) := grown_of_same (assign_snapshots s org _)
  unfold Reconcile.liveStore
  split
  · unfold withBaseline
    split
    · exact hassign
    · exact hassign.openSnapshot stored rfl
  · exact hassign

theorem setPlan_snapshots (s : Store) (plan : Plan) :
    (s.setPlan plan).1.snapshots = s.snapshots := by
  unfold setPlan
  split <;> rfl

end Store

namespace Delivery
variable {s t : Store} {now : DateTime} {p : Provider} {id : Uuid}

theorem settle_grown {kind : EventKind} (hs : s.Sound) (h : settle s now p id kind = .ok t) :
    s.Grown t := by
  cases kind with
  | subscription e =>
    obtain ⟨org, stored, settled⟩ := settle_subscription_ok h
    rcases settled with ⟨-, plan, -, rfl⟩ | ⟨-, outcome, ended⟩ | ⟨-, rfl⟩
    · rw [← hs.organization _ _ stored] at stored
      exact Store.grown_liveStore stored e _
    · rcases settleEnded_ok ended with ⟨-, rfl⟩ | ⟨plan, -, ⟨-, rfl⟩ | ⟨-, rfl⟩⟩
      all_goals exact Store.grown_of_same rfl
    · exact Store.grown_of_same rfl
  | invoice e =>
    obtain ⟨org, -, ⟨-, rfl⟩ | rfl⟩ := settle_invoice_ok h
    all_goals exact Store.grown_of_same rfl
  | product e =>
    rcases settle_product_ok h with ⟨-, rfl⟩ | ⟨plan, offer, refreshed, -, -, -, ⟨-, rfl⟩ | rfl⟩
    · exact Store.grown_of_same rfl
    · exact Store.grown_of_same rfl
    · exact Store.grown_of_same (Store.setPlan_snapshots _ _)
  | unhandled =>
    cases h
    exact Store.grown_of_same rfl

/-- Handling an event opens periods as its settling does, whether it is settled or only half
applied. -/
theorem Handled.grown {mayFail : Prop} {event : Event} {r : Except Failure DeliveryOutcome}
    {a b : Scene} (hs : a.store.Sound) (h : Handled mayFail event a r b) :
    a.store.Grown b.store := by
  rcases h.store_cases hs with same | ⟨id, done⟩ | ⟨e, f, -, half⟩
  · exact Store.grown_of_same (congrArg Store.snapshots same)
  · exact settle_grown hs done
  · obtain ⟨-, -, -, -, org, plan, -, -, hstore⟩ := half
    rw [hstore]
    exact Store.grown_of_same (Store.assign_snapshots _ _ _)

end Delivery

/-- A query about an organization changes nothing but snapshots, and opens periods of that
organization alone. -/
theorem Action.Gives.grown {α : Type} {mayFail : Prop} {address : String}
    {f : Organization → Action α} (hf : ∀ org, (f org).Within (Call.IsQueryOf org)) {s t : Scene}
    {r : Except Failure α} (hs : s.store.Sound)
    (h : (Usage.loadOrganization address >>= f).Gives mayFail s r t) : s.store.Grown t.store := by
  rcases Usage.gives_bind_loadOrganization h with ⟨org, stored, h⟩ | ⟨-, -, rfl⟩ | ⟨-, -, rfl⟩
  · have haddress := hs.organization _ _ stored
    refine Proc.Yields.keeps (fun u => s.store.Grown u.store) ?_ (hf org) h
      (Store.grown_of_same rfl)
    intro u c a v hc hv hu
    cases c with
    | store c =>
      rcases hv with ⟨-, rfl⟩ | ⟨-, -, rfl⟩
      · cases c with
        | openSnapshot x =>
          refine Store.Grown.openSnapshot hu ?_ hc.2
          rw [hc.1, haddress]
          exact stored
        | setOrganization => cases hc
        | setSubscription => cases hc
        | setPlan => cases hc
        | _ => exact hu
      · exact hu
    | now =>
      obtain ⟨-, rfl⟩ := hv
      exact hu
    | freshId =>
      obtain rfl : v = u := hv
      exact hu
    | _ => cases hc
  · exact Store.grown_of_same rfl
  · exact Store.grown_of_same rfl

/-! ## Runs -/

/-- An operation that leaves the opening of periods to the service. -/
def Operation.LeavesPeriods : Operation → Prop
  | .edit _ => False
  | .call (.openSnapshot _) => False
  | _ => True

namespace World
variable {w : World} {op : Operation} {ops : List Operation} {k : SnapshotKey} {x : Snapshot}

theorem run_grown {α : Type} {address : String} {f : Organization → Action α}
    (hf : ∀ org, (f org).Within (Call.IsQueryOf org)) (hs : w.store.Sound) :
    w.store.Grown (w.run (Usage.loadOrganization address >>= f)).2.store := by
  cases pool : w.poolClosed with
  | true => exact Store.grown_of_same (by rw [store_run_of_poolClosed _ pool])
  | false =>
    exact Action.Gives.grown hf hs (run_gives _ (open_of_pool pool))

theorem handle_grown (event : Event) (hs : w.store.Sound) :
    w.store.Grown (w.run (Delivery.handle event)).2.store := by
  cases hrun : w.run (Delivery.handle event) with
  | mk r u =>
    rcases handled hrun with ⟨-, handled⟩ | ⟨-, rfl⟩
    · exact handled.grown hs
    · exact Store.grown_of_same rfl

theorem checkTx_grown (allowance : Int) (tx : TxRequest) (address : String) (role : Role)
    (hs : w.store.Sound) :
    w.store.Grown (w.run (Entitlement.checkTx allowance tx address role)).2.store := by
  refine run_grown (fun org => ?_) hs
  cases subscriptionGate org.subscription with
  | error reason => exact Action.within_pure _
  | ok =>
    exact (Entitlement.loadPlan_opens org).bind fun plan =>
      (Entitlement.txUsage_opens tx).bind fun _ => Action.within_pure _

theorem checkQuota_grown (allowance : Int) (address : String) (role : Role) (action : QuotaAction)
    (hs : w.store.Sound) :
    w.store.Grown (w.run (Entitlement.checkQuota allowance address role action)).2.store := by
  refine run_grown (fun org => ?_) hs
  cases subscriptionGate org.subscription with
  | error reason => exact Action.within_pure _
  | ok =>
    exact (Entitlement.loadPlan_opens org).bind fun plan =>
      (Entitlement.quotaUsage_opens address action).bind fun _ => Action.within_pure _

theorem usage_grown (address : String) (hs : w.store.Sound) :
    w.store.Grown (w.run (Usage.ofAddress address)).2.store :=
  run_grown (fun _ => Usage.ofOrganization_opens) hs

/-- A call that opens no period leaves all snapshots. -/
theorem call_grown {c : StoreCall} (hop : (Operation.call c).LeavesPeriods) :
    w.store.Grown (w.answer (.store c)).2.store := by
  rcases store_answer w (.store c) with same | ⟨d, hd, answered⟩
  · exact Store.grown_of_same (by rw [same])
  · obtain rfl : c = d := Call.store.inj hd
    refine Store.grown_of_same ?_
    rw [answered]
    cases c with
    | openSnapshot => cases hop
    | setPlan plan => exact Store.setPlan_snapshots _ _
    | setSubscription address subscription =>
      simp only [Store.answer]
      split
      · rename_i hset
        unfold Store.setSubscription at hset
        split at hset
        · cases hset
        · cases hset
          rfl
      · rfl
    | _ => rfl

/-- Every operation keeps the snapshots there are. -/
theorem step_grown (hop : op.LeavesPeriods) (hs : w.store.Sound) :
    w.store.Grown (w.step op).2.store := by
  cases op with
  | deliver event => exact handle_grown event hs
  | receive payload header =>
    cases he : w.event? (.receive payload header) with
    | none =>
      have hdelivery : (Operation.receive payload header).IsDelivery := trivial
      exact Store.grown_of_same (by rw [store_of_event?_none hdelivery he])
    | some event =>
      rw [step_of_event? he]
      exact handle_grown event hs
  | sweep =>
    rcases store_answer w (.ledger .purge) with same | ⟨d, hd, -⟩
    · exact Store.grown_of_same (congrArg Store.snapshots same)
    · cases hd
  | checkTx allowance tx address role => exact checkTx_grown allowance tx address role hs
  | checkQuota allowance address role action =>
    exact checkQuota_grown allowance address role action hs
  | usage address => exact usage_grown address hs
  | call c => exact call_grown hop
  | edit => cases hop
  | _ => exact Store.grown_of_same rfl

theorem sound_step (hop : op.LeavesPeriods) (hs : w.store.Sound) : (w.step op).2.store.Sound := by
  cases op with
  | edit => cases hop
  | _ =>
    refine step_keeps (fun u => u.store.Sound) sound_answer _ (fun u around hu => ?_) hs
    first | exact hu | cases around

theorem sound_after (hops : ∀ op ∈ ops, op.LeavesPeriods) (hs : w.store.Sound) :
    (w.after ops).store.Sound :=
  after_keeps (fun u => u.store.Sound) (fun _ op hop hu => sound_step (hops op hop) hu) hs

/-- A period that was opened in a run, by the operation that found these counters. -/
def OpenedIn (w : World) (ops : List Operation) (k : SnapshotKey) (counters : Counters) : Prop :=
  ∃ past op rest org, ops = past ++ op :: rest ∧
    (w.after past).store.snapshots.get? k = none ∧
    ((w.after past).step op).2.store.snapshots.get? k ≠ none ∧
    (w.after past).store.organization? k.address = some org ∧ counters = org.counters

/-- A snapshot is never changed or removed. -/
theorem after_stays (hops : ∀ op ∈ ops, op.LeavesPeriods) (hs : w.store.Sound)
    (hx : w.store.snapshots.get? k = some x) : (w.after ops).store.snapshots.get? k = some x := by
  induction ops generalizing w with
  | nil => exact hx
  | cons op ops ih =>
    have hop := hops op List.mem_cons_self
    exact ih (fun o ho => hops o (List.mem_cons_of_mem _ ho)) (sound_step hop hs)
      ((step_grown hop hs).stays hx)

/-- The baseline of a period that was not open before a run is what the operation that opened it
found. -/
theorem openedIn_of_stored (hops : ∀ op ∈ ops, op.LeavesPeriods) (hs : w.store.Sound)
    (fresh : w.store.snapshots.get? k = none)
    (hx : (w.after ops).store.snapshots.get? k = some x) : w.OpenedIn ops k x.baseline := by
  induction ops generalizing w with
  | nil =>
    have hnone : (w.after []).store.snapshots.get? k = none := fresh
    rw [hnone] at hx
    cases hx
  | cons op ops ih =>
    have hop := hops op List.mem_cons_self
    have hrest : ∀ o ∈ ops, o.LeavesPeriods := fun o ho => hops o (List.mem_cons_of_mem _ ho)
    cases hk : (w.step op).2.store.snapshots.get? k with
    | none =>
      obtain ⟨past, o, rest, org, rfl, found⟩ := ih hrest (sound_step hop hs) hk hx
      exact ⟨op :: past, o, rest, org, rfl, found⟩
    | some y =>
      have hy := after_stays hrest (sound_step hop hs) hk
      obtain rfl := Option.some.inj (hx.symm.trans hy)
      rcases step_grown hop hs k with same | ⟨-, z, org, hz, stored, counters⟩
      · rw [same, fresh] at hk
        cases hk
      · obtain rfl := Option.some.inj (hk.symm.trans hz)
        refine ⟨[], op, ops, org, rfl, fresh, ?_, stored, counters⟩
        have hsome : ((w.after []).step op).2.store.snapshots.get? k = some x := hk
        rw [hsome]
        exact Option.some_ne_none x

/-! ## Usage queries -/

/-- What a usage query leaves: all as it was, but for the snapshot of the current period of the
organization when it was not there yet. -/
structure Consulted (u : World) (address : String) (v : World) : Prop where
  rest : v = { u with desk := v.desk, nextId := v.nextId }
  store : v.store = u.store ∨ ∃ org window id, u.store.organization? address = some org ∧
    currentPeriod? org.subscription u.now = some window ∧
    u.store.snapshot? address window.start = none ∧
    v.store = (u.store.openSnapshot (Store.baseline org window u.now id)).1

theorem rest_of_query {α : Type} {a : Action α} (ha : a.Within Call.IsQuery) (u : World) :
    (u.run a).2 = { u with desk := (u.run a).2.desk, nextId := (u.run a).2.nextId } := by
  refine runProc_keeps (fun v => v = { u with desk := v.desk, nextId := v.nextId })
    (fun v c hc hv => ?_) ha rfl
  cases c with
  | store c =>
    simp only [answer]
    split
    · exact hv
    · rw [hv]
  | now => exact hv
  | freshId =>
    simp only [answer]
    rw [hv]
  | _ => cases hc

theorem run_loadOrganization_of_poolClosed {u : World} (h : u.poolClosed = true)
    (address : String) : u.run (Usage.loadOrganization address) =
      (.error (.error ConnectionError.poolClosed.toStore.toBilling), u) := by
  unfold Usage.loadOrganization
  rw [run_bind, run_store_of_poolClosed h]

/-- Without its database a usage query fails. -/
theorem usage_of_poolClosed {u : World} (h : u.poolClosed = true) (address : String) :
    ∃ f, (u.run (Usage.ofAddress address)).1 = .error f := by
  unfold Usage.ofAddress
  rw [run_bind, run_loadOrganization_of_poolClosed h]
  exact ⟨_, rfl⟩

/-- What a usage query answers and leaves. -/
theorem usage_cases (u : World) (address : String) :
    ((∃ f, (u.run (Usage.ofAddress address)).1 = .error f) ∧
        (u.run (Usage.ofAddress address)).2.store = u.store) ∨
      ∃ org, u.store.organization? address = some org ∧
        ((currentPeriod? org.subscription u.now = none ∧
            (u.run (Usage.ofAddress address)).1 = .ok ⟨org.counters, false, none⟩ ∧
            (u.run (Usage.ofAddress address)).2.store = u.store) ∨
          ∃ window id, currentPeriod? org.subscription u.now = some window ∧
            let opened := u.store.openSnapshot (Store.baseline org window u.now id)
            (u.run (Usage.ofAddress address)).1 =
                .ok ⟨org.counters.since opened.2.baseline, true, some window⟩ ∧
              (u.run (Usage.ofAddress address)).2.store = opened.1) := by
  cases pool : u.poolClosed with
  | true => exact Or.inl ⟨usage_of_poolClosed pool address, store_run_of_poolClosed _ pool⟩
  | false =>
    have gives := run_gives (Usage.ofAddress address) (open_of_pool pool)
    rcases Usage.gives_ofAddress gives with ⟨-, failed, same⟩ | ⟨org, stored, hnone | hsome⟩
    · exact Or.inl ⟨failed, congrArg Scene.store same⟩
    · obtain ⟨hperiod, hr, same⟩ := hnone
      exact Or.inr ⟨org, stored, Or.inl ⟨hperiod, hr, congrArg Scene.store same⟩⟩
    · obtain ⟨window, id, hwindow, hr, ht⟩ := hsome
      exact Or.inr ⟨org, stored, Or.inr ⟨window, id, hwindow, hr, congrArg Scene.store ht⟩⟩

theorem consulted {u : World} (hs : u.store.Sound) (address : String) :
    u.Consulted address (u.run (Usage.ofAddress address)).2 := by
  refine ⟨rest_of_query (Usage.ofAddress_within address) u, ?_⟩
  rcases usage_cases u address with
    ⟨-, same⟩ | ⟨org, stored, ⟨-, -, same⟩ | ⟨window, id, hw, -, ht⟩⟩
  · exact Or.inl same
  · exact Or.inl same
  · have haddress := hs.organization _ _ stored
    cases hk : u.store.snapshot? address window.start with
    | some x =>
      have hkey : u.store.snapshots.get? (Store.baseline org window u.now id).key = some x := by
        change u.store.snapshot? org.address window.start = some x
        rw [haddress]
        exact hk
      exact Or.inl (ht.trans (congrArg Prod.fst (Store.openSnapshot_of_stored hkey)))
    | none => exact Or.inr ⟨org, window, id, stored, hw, hk, ht⟩

/-- What a usage query after a run says of a period of an organization. -/
structure Measured (w : World) (ops : List Operation) (address : String) (org : Organization)
    (window : Window) (usage : PeriodUsage) : Prop where
  active : usage.periodActive = true
  period : usage.period = some window
  /-- What came on top of the counters that the operation found which opened the period first. -/
  since : ∃ base, w.OpenedIn (ops ++ [.usage address]) ⟨address, window.start.instant⟩ base ∧
    usage.counters.processes = max (org.counters.processes - base.processes) 0 ∧
    usage.counters.sentEmails = max (org.counters.sentEmails - base.sentEmails) 0 ∧
    usage.counters.sentSms = max (org.counters.sentSms - base.sentSms) 0
  /-- The query that opens the period says that nothing was used. -/
  first : (w.after ops).store.snapshot? address window.start = none → usage.counters = .zero
  nonneg : 0 ≤ usage.counters.processes ∧ 0 ≤ usage.counters.sentEmails ∧
    0 ≤ usage.counters.sentSms

theorem since_nonneg (c base : Counters) :
    0 ≤ (c.since base).processes ∧ 0 ≤ (c.since base).sentEmails ∧ 0 ≤ (c.since base).sentSms :=
  ⟨Int.le_max_right _ _, Int.le_max_right _ _, Int.le_max_right _ _⟩

theorem measured {address : String} {org : Organization} {window : Window} {usage : PeriodUsage}
    (hops : ∀ op ∈ ops, op.LeavesPeriods) (hs : w.store.Sound) (unopened : w.store.snapshots = ∅)
    (answer : ((w.after ops).step (.usage address)).1 = .usage (.ok usage))
    (stored : (w.after ops).store.organization? address = some org)
    (current : currentPeriod? org.subscription (w.after ops).now = some window) :
    w.Measured ops address org window usage := by
  have hops' : ∀ op ∈ ops ++ [.usage address], op.LeavesPeriods := by
    intro op hop
    rcases List.mem_append.mp hop with hop | hop
    · exact hops op hop
    · obtain rfl := List.mem_singleton.mp hop
      trivial
  have haddress := (sound_after hops hs).organization _ _ stored
  have hr : ((w.after ops).run (Usage.ofAddress address)).1 = .ok usage := Reply.usage.inj answer
  have hafter : w.after (ops ++ [.usage address]) =
      ((w.after ops).run (Usage.ofAddress address)).2 := after_append w ops _
  rcases usage_cases (w.after ops) address with ⟨⟨f, failed⟩, -⟩ | ⟨org', stored', found⟩
  · rw [hr] at failed
    cases failed
  · obtain rfl := Option.some.inj (stored.symm.trans stored')
    rcases found with ⟨hnone, -⟩ | ⟨window', id, hw, answered, ht⟩
    · rw [current] at hnone
      cases hnone
    · obtain rfl := Option.some.inj (current.symm.trans hw)
      obtain rfl := Except.ok.inj (hr.symm.trans answered)
      refine ⟨rfl, rfl, ⟨_, ?_, rfl, rfl, rfl⟩, fun fresh => ?_, since_nonneg _ _⟩
      · refine openedIn_of_stored hops' hs ?_ ?_
        · rw [unopened]
          exact Table.get?_empty _
        · rw [hafter, ht, ← haddress]
          exact Store.get?_openSnapshot _ _
      · have hkey : (w.after ops).store.snapshots.get?
            (Store.baseline org window (w.after ops).now id).key = none := by
          change (w.after ops).store.snapshot? org.address window.start = none
          rw [haddress]
          exact fresh
        rw [Store.openSnapshot_of_fresh hkey]
        exact Counters.since_self _

/-- Over any run of the service that begins without snapshots there is one snapshot at most for
an organization and the start of a period, and it stays as it was taken; the usage of a period is
what came on top of the counters that the organization had when the period was first looked at; and
a usage query changes nothing but that it takes the snapshot when it is the first to look. -/
theorem usage_since_baseline (sound : w.store.Sound) (unopened : w.store.snapshots = ∅)
    (hops : ∀ op ∈ ops, op.LeavesPeriods) :
    (∀ x ∈ (w.after ops).store.snapshots.values, ∀ y ∈ (w.after ops).store.snapshots.values,
      x.address = y.address → x.periodStart.instant = y.periodStart.instant → x = y) ∧
    (∀ past rest, ops = past ++ rest → ∀ k x, (w.after past).store.snapshots.get? k = some x →
      (w.after ops).store.snapshots.get? k = some x) ∧
    ∀ address, (w.after ops).Consulted address ((w.after ops).step (.usage address)).2 ∧
      ∀ usage org window, ((w.after ops).step (.usage address)).1 = .usage (.ok usage) →
        (w.after ops).store.organization? address = some org →
        currentPeriod? org.subscription (w.after ops).now = some window →
        w.Measured ops address org window usage := by
  have sound' := sound_after hops sound
  refine ⟨?_, ?_, ?_⟩
  · intro x hx y hy address start
    obtain ⟨k, hk⟩ := (Table.mem_values_iff _ _).mp hx
    obtain ⟨j, hj⟩ := (Table.mem_values_iff _ _).mp hy
    have hkey : k = j := by
      rw [← sound'.snapshot k x hk, ← sound'.snapshot j y hj]
      simp only [Snapshot.key, address, start]
    rw [hkey, hj] at hk
    exact (Option.some.inj hk).symm
  · intro past rest hsplit k x hx
    subst hsplit
    rw [after_append]
    exact after_stays (fun op hop => hops op (List.mem_append_right _ hop))
      (sound_after (fun op hop => hops op (List.mem_append_left _ hop)) sound) hx
  · intro address
    exact ⟨consulted sound' address, fun usage org window answer stored current =>
      measured hops sound unopened answer stored current⟩

/-- An organization that subscribed for a year and has started seven processes since. -/
theorem seven_processes_since :
    let used : Organization :=
      ⟨"0xa1", Reconcile.liveSubscription sampleSubscription
        { (default : Plan) with id := 2 } default none, ⟨7, 0, 0⟩⟩
    let ops : List Operation := [.deliver sampleSubscribed, .call (.setOrganization used)]
    ∃ base, sample.OpenedIn (ops ++ [.usage "0xa1"])
        ⟨"0xa1", (newYear 2024 (by decide)).instant⟩ base ∧
      max (7 - base.processes) 0 = 7 ∧ max (0 - base.sentEmails) 0 = 0 ∧
      max (0 - base.sentSms) 0 = 0 := by
  intro used ops
  have hops : ∀ op ∈ ops, op.LeavesPeriods := by
    intro op hop
    simp only [ops, List.mem_cons, List.not_mem_nil, or_false] at hop
    rcases hop with rfl | rfl <;> trivial
  obtain ⟨-, -, law⟩ := usage_since_baseline (w := sample) Store.sample_sound rfl hops
  have stored : (sample.after ops).store.organization? "0xa1" = some used := by decide +kernel
  have current : currentPeriod? used.subscription (sample.after ops).now =
      some ⟨newYear 2024 (by decide), newYear 2025 (by decide)⟩ := by decide +kernel
  have answer : ((sample.after ops).run (Usage.ofAddress "0xa1")).1 =
      .ok ⟨⟨7, 0, 0⟩, true, some ⟨newYear 2024 (by decide), newYear 2025 (by decide)⟩⟩ := by
    decide +kernel
  obtain ⟨base, opened, processes, emails, sms⟩ :=
    ((law "0xa1").2 _ used _ (congrArg Reply.usage answer) stored current).since
  exact ⟨base, opened, processes.symm, emails.symm, sms.symm⟩

end World

end TenantBilling
