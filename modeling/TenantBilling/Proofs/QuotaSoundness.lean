import TenantBilling.Proofs.Baselines
import TenantBilling.Proofs.Periods
import TenantBilling.Proofs.RuleBook

/-! Quotas over runs. An organization that counts what it was allowed to do, and does nothing else,
never uses more of a period than its plan allows, however many periods go by. What carries this is
that all baselines are of the current period or of earlier ones: a period that begins has none. -/

namespace TenantBilling

open Calendar

/-- What is used stays within what a plan allows for a period. -/
structure Counters.Within (used : Counters) (limits : PlanLimits) : Prop where
  processes : used.processes ≤ max limits.maxProcesses 0
  sentEmails : used.sentEmails ≤ max limits.maxSentEmails 0
  sentSms : used.sentSms ≤ max limits.maxSentSms 0

theorem Counters.within_since_self (c : Counters) (limits : PlanLimits) :
    (c.since c).Within limits := by
  rw [Counters.since_self]
  exact ⟨Int.le_max_right _ _, Int.le_max_right _ _, Int.le_max_right _ _⟩

/-! ## Spending -/

/-- What an organization does: it lets time pass, starts a process or publishes a census. -/
inductive Spending where
  | wait (clock : DateTime)
  | newProcess (role : Role) (shape : ProcessShape)
  | publishCensus (role : Role) (censusSize : Int) (email sms : Bool)

namespace Spending

/-- The operation that comes first: the clock is set, or permission is asked for. -/
def operation (allowance : Int) (address : String) : Spending → Operation
  | wait clock => .setClock clock
  | newProcess role shape => .checkTx allowance (.newProcess shape) address role
  | publishCensus role n email sms =>
    .checkQuota allowance address role (.publishCensus n email sms)

/-- The counters once it was done. -/
def count (c : Counters) : Spending → Counters
  | wait _ => c
  | newProcess _ _ => { c with processes := c.processes + 1 }
  | publishCensus _ n email sms => { c with
      sentEmails := c.sentEmails + if email then n else 0
      sentSms := c.sentSms + if sms then n else 0 }

/-- Whether it is limited: a process past the test allowance, a census that is not negative. -/
def IsLimited (allowance : Int) : Spending → Prop
  | wait _ => True
  | newProcess _ shape => allowance < shape.censusSize
  | publishCensus _ n _ _ => 0 ≤ n

/-- A process that the limit has room for is one process more. -/
theorem within_newProcess {limits : PlanLimits} {c base : Counters} {role : Role}
    {shape : ProcessShape} (h : (c.since base).Within limits)
    (room : (c.since base).processes < limits.maxProcesses) :
    ((count c (newProcess role shape)).since base).Within limits := by
  refine ⟨?_, h.sentEmails, h.sentSms⟩
  simp only [Counters.since, count] at room ⊢
  omega

/-- Messages that the allowances have room for are so many more. -/
theorem within_publishCensus {limits : PlanLimits} {c base : Counters} {role : Role} {n : Int}
    {email sms : Bool} (h : (c.since base).Within limits) (nonneg : 0 ≤ n)
    (emails : email = true → n ≤ max (limits.maxSentEmails - (c.since base).sentEmails) 0)
    (messages : sms = true → n ≤ max (limits.maxSentSms - (c.since base).sentSms) 0) :
    ((count c (publishCensus role n email sms)).since base).Within limits := by
  obtain ⟨hprocesses, hemails, hsms⟩ := h
  refine ⟨hprocesses, ?_, ?_⟩
  · simp only [Counters.since, count] at hemails emails ⊢
    cases email with
    | false => simpa using hemails
    | true =>
      have hn := emails rfl
      simp only [if_true]
      omega
  · simp only [Counters.since, count] at hsms messages ⊢
    cases sms with
    | false => simpa using hsms
    | true =>
      have hn := messages rfl
      simp only [if_true]
      omega

end Spending

namespace World

/-- Asks for permission, and counts what was done if it was given. -/
def spend (w : World) (allowance : Int) (address : String) (s : Spending) : World :=
  let (reply, u) := w.step (s.operation allowance address)
  match reply, u.store.organization? address with
  | .permission (.ok .allowed), some org =>
    u.withStore (u.store.setCounters address (s.count org.counters))
  | _, _ => u

def spendAll (w : World) (allowance : Int) (address : String) : List Spending → World
  | [] => w
  | s :: rest => (w.spend allowance address s).spendAll allowance address rest

/-- Time goes on at one offset, in periods of a subscription. -/
structure GoesOn (w : World) (sub : Subscription) (u : World) : Prop where
  later : w.now ≤ u.now
  offset : u.now.offset = w.now.offset
  period : (currentPeriod? sub u.now).isSome = true

/-- Whatever is done is limited, and time goes on. -/
def Regular (w : World) (allowance : Int) (address : String) (sub : Subscription) :
    List Spending → Prop
  | [] => True
  | s :: rest =>
    s.IsLimited allowance ∧ w.GoesOn sub (w.spend allowance address s) ∧
      (w.spend allowance address s).Regular allowance address sub rest

end World

/-! ## Stores within quota -/

namespace Store
variable {s : Store} {org : Organization} {plan : Plan} {window window' : Window}

/-- The usage of a period that is not over is within the plan, and no later period is open. -/
structure InQuota (s : Store) (org : Organization) (plan : Plan) (window : Window) : Prop where
  sound : s.Sound
  stored : s.organization? org.address = some org
  assigned : s.plans.get? org.subscription.planId = some plan
  past : ∀ k x, s.snapshots.get? k = some x → k.address = org.address →
    k.start ≤ window.start.instant
  limit : ∀ x, s.snapshot? org.address window.start = some x →
    (org.counters.since x.baseline).Within plan.limits

theorem InQuota.openSnapshot (h : s.InQuota org plan window) (now : DateTime) (id : Uuid) :
    (s.openSnapshot (baseline org window now id)).1.InQuota org plan window := by
  cases hk : s.snapshots.get? (baseline org window now id).key with
  | some x =>
    rw [openSnapshot_of_stored hk]
    exact h
  | none =>
    have sound := h.sound.openSnapshot (baseline org window now id)
    rw [openSnapshot_of_fresh hk] at sound ⊢
    refine ⟨sound, h.stored, h.assigned, fun k x hx haddress => ?_, fun x hx => ?_⟩
    · by_cases same : k = (baseline org window now id).key
      · rw [same]
        exact Int.le_refl _
      · dsimp only at hx
        rw [Table.get?_insert_of_ne _ _ same] at hx
        exact h.past k x hx haddress
    · obtain rfl : baseline org window now id = x :=
        Option.some.inj ((Table.get?_insert_self _ _ _).symm.trans hx)
      exact Counters.within_since_self _ _

/-- As time goes on the period is the same, or one that is not open yet. -/
theorem InQuota.later (h : s.InQuota org plan window) (later : window.start ≤ window'.start) :
    s.InQuota org plan window' := by
  refine ⟨h.sound, h.stored, h.assigned, fun k x hx haddress => ?_, fun x hx => ?_⟩
  · exact Int.le_trans (h.past k x hx haddress) later
  · have hpast : window'.start.instant ≤ window.start.instant := h.past _ x hx rfl
    have hsame : window'.start.instant = window.start.instant := Int.le_antisymm hpast later
    refine h.limit x ?_
    unfold snapshot? at hx ⊢
    rw [← hsame]
    exact hx

theorem setCounters_of_stored {address : String} (stored : s.organization? address = some org)
    (c : Counters) : s.setCounters address c =
      { s with organizations := s.organizations.insert address { org with counters := c } } := by
  unfold organization? at stored
  simp only [setCounters, Table.adjust, stored]

/-- What was counted has to fit into the period, if the period is open. -/
theorem InQuota.setCounters (h : s.InQuota org plan window) {c : Counters}
    (fits : ∀ x, s.snapshot? org.address window.start = some x →
      (c.since x.baseline).Within plan.limits) :
    (s.setCounters org.address c).InQuota { org with counters := c } plan window := by
  have sound : (s.setOrganization { org with counters := c }).Sound := h.sound.setOrganization _
  rw [setCounters_of_stored h.stored]
  exact ⟨⟨sound.organization, h.sound.plan, h.sound.planId, h.sound.lastPlanId, h.sound.snapshot⟩,
    Table.get?_insert_self _ _ _, h.assigned, h.past, fits⟩

end Store

/-! ## Checks -/

namespace Entitlement

/-- Permission for what a plan limits in a period: a decision on the usage of the current one. -/
def metered (address : String) (decision : Organization → Plan → Counters → Permission) :
    Action Permission := do
  let org ← Usage.loadOrganization address
  match subscriptionGate org.subscription with
  | .error reason => pure (.denied reason)
  | .ok () =>
    let plan ← loadPlan org
    let usage ← Usage.ofOrganization org
    pure (decision org plan usage.counters)

theorem checkTx_newProcess (allowance : Int) (shape : ProcessShape) (address : String)
    (role : Role) : checkTx allowance (.newProcess shape) address role =
      metered address fun org plan used =>
        evaluateTx ⟨role, org.subscription, plan, used, allowance⟩ (.newProcess shape) := by
  unfold checkTx metered
  refine congrArg (Usage.loadOrganization address >>= ·) (funext fun org => ?_)
  cases subscriptionGate org.subscription with
  | error reason => rfl
  | ok => simp only [txUsage, TxRequest.needsUsage, if_true, bind_map_left]

theorem checkQuota_publishCensus (allowance : Int) (address : String) (role : Role) (n : Int)
    (email sms : Bool) : checkQuota allowance address role (.publishCensus n email sms) =
      metered address fun org plan used =>
        evaluateQuota ⟨role, org.subscription, plan, used, allowance⟩
          (.publishCensus n email sms) 0 := by
  unfold checkQuota metered
  refine congrArg (Usage.loadOrganization address >>= ·) (funext fun org => ?_)
  cases subscriptionGate org.subscription with
  | error reason => rfl
  | ok => simp only [quotaUsage, bind_assoc, pure_bind]

theorem metered_within (address : String) (decision : Organization → Plan → Counters → Permission) :
    (metered address decision).Within Call.IsQuery := by
  refine (Usage.loadOrganization_within address).bind fun org => ?_
  cases subscriptionGate org.subscription with
  | error reason => exact Action.within_pure _
  | ok =>
    exact (loadPlan_within org).bind fun plan =>
      (Usage.ofOrganization_within org).bind fun _ => Action.within_pure _

/-- What such a check comes to in a period: it is refused or fails, or the period is open and the
decision is on what was used of it. -/
theorem gives_metered {address : String} {decision : Organization → Plan → Counters → Permission}
    {mayFail : Prop} {s t : Scene} {org : Organization} {window : Window}
    {r : Except Failure Permission} (stored : s.store.organization? address = some org)
    (current : currentPeriod? org.subscription s.now = some window)
    (h : (metered address decision).Gives mayFail s r t) :
    (r ≠ .ok .allowed ∧ t.store = s.store) ∨
      ∃ id, let opened := s.store.openSnapshot (Store.baseline org window s.now id)
        t.store = opened.1 ∧ (r = .ok .allowed → ∃ plan,
          s.store.plans.get? org.subscription.planId = some plan ∧
            decision org plan (org.counters.since opened.2.baseline) = .allowed) := by
  rcases Usage.gives_bind_loadOrganization h with ⟨o, ho, h⟩ | ⟨hnone, -⟩ | ⟨-, rfl, rfl⟩
  · obtain rfl := Option.some.inj (stored.symm.trans ho)
    cases hgate : subscriptionGate org.subscription with
    | error reason =>
      rw [hgate] at h
      obtain ⟨rfl, rfl⟩ := Action.gives_pure.mp h
      exact Or.inl ⟨nofun, rfl⟩
    | ok =>
      rw [hgate] at h
      rcases gives_bind_loadPlan h with ⟨plan, hplan, h⟩ | ⟨-, rfl, rfl⟩ | ⟨-, rfl, rfl⟩
      · rcases Usage.gives_bind_ofOrganization current h with ⟨id, h⟩ | ⟨-, ⟨op, rfl⟩, rfl⟩
        · obtain ⟨rfl, rfl⟩ := Action.gives_pure.mp h
          exact Or.inr ⟨id, rfl, fun allowed => ⟨plan, hplan, Except.ok.inj allowed⟩⟩
        · exact Or.inl ⟨nofun, rfl⟩
      · exact Or.inl ⟨nofun, rfl⟩
      · exact Or.inl ⟨nofun, rfl⟩
  · rw [stored] at hnone
    cases hnone
  · exact Or.inl ⟨nofun, rfl⟩

end Entitlement

/-! ## Runs -/

namespace World
variable {w u : World} {allowance : Int} {address : String} {sub : Subscription} {plan : Plan}
  {s : Spending} {steps : List Spending}

/-- A world in which an organization is within its quota. -/
structure InQuota (w : World) (address : String) (sub : Subscription) (plan : Plan) : Prop where
  pool : w.poolClosed = false
  quota : ∃ org window, org.address = address ∧ org.subscription = sub ∧
    currentPeriod? sub w.now = some window ∧ w.store.InQuota org plan window

theorem spend_of_allowed {org : Organization}
    (hstep : w.step (s.operation allowance address) = (.permission (.ok .allowed), u))
    (stored : u.store.organization? address = some org) :
    w.spend allowance address s =
      u.withStore (u.store.setCounters address (s.count org.counters)) := by
  unfold spend
  rw [hstep]
  dsimp only
  rw [stored]

theorem spend_of_refused {reply : Reply}
    (hstep : w.step (s.operation allowance address) = (reply, u))
    (refused : reply ≠ .permission (.ok .allowed)) : w.spend allowance address s = u := by
  unfold spend
  rw [hstep]
  dsimp only
  split
  · exact absurd rfl refused
  · rfl

theorem now_of_query {α : Type} {a : Action α} (ha : a.Within Call.IsQuery) (w : World) :
    (w.run a).2.now = w.now := by
  rw [rest_of_query ha w]
  rfl

theorem pool_of_query {α : Type} {a : Action α} (ha : a.Within Call.IsQuery) (w : World) :
    (w.run a).2.poolClosed = w.poolClosed := by
  rw [rest_of_query ha w]

/-- Nothing is used while time goes on. -/
theorem InQuota.wait (h : w.InQuota address sub plan) {clock : DateTime}
    (goesOn : w.GoesOn sub (w.spend allowance address (.wait clock))) :
    (w.spend allowance address (.wait clock)).InQuota address sub plan := by
  have hspend : w.spend allowance address (.wait clock) = { w with clock } :=
    spend_of_refused (rfl : w.step (.setClock clock) = (.nothing, { w with clock })) nofun
  obtain ⟨pool, org, window, haddress, hsub, hwindow, quota⟩ := h
  obtain ⟨window', hwindow'⟩ := Option.isSome_iff_exists.mp goesOn.period
  have later := currentPeriod?_le goesOn.offset goesOn.later hwindow hwindow'
  rw [hspend] at hwindow' ⊢
  exact ⟨pool, org, window', haddress, hsub, hwindow', quota.later later⟩

/-- What is done with permission stays within the quota, if permission is given only for what
the usage of the period has room for. -/
theorem InQuota.check {decision : Organization → Plan → Counters → Permission}
    (h : w.InQuota address sub plan)
    (hstep : w.step (s.operation allowance address) =
      (w.run (Entitlement.metered address decision)).map .permission id)
    (room : ∀ org base, decision org plan (org.counters.since base) = .allowed →
      (org.counters.since base).Within plan.limits →
      ((s.count org.counters).since base).Within plan.limits) :
    (w.spend allowance address s).InQuota address sub plan := by
  obtain ⟨pool, org, window, rfl, rfl, hwindow, quota⟩ := h
  have hnow := now_of_query (Entitlement.metered_within org.address decision) w
  have hpool := pool_of_query (Entitlement.metered_within org.address decision) w
  rw [pool] at hpool
  have gives := run_gives (Entitlement.metered org.address decision) (open_of_pool pool)
  replace gives := Entitlement.gives_metered (s := w.scene) quota.stored hwindow gives
  generalize w.run (Entitlement.metered org.address decision) = x at hstep hnow hpool gives
  obtain ⟨r, u⟩ := x
  dsimp only at hnow hpool gives
  have hperiod : currentPeriod? org.subscription u.now = some window := hnow ▸ hwindow
  rcases gives with ⟨refused, same⟩ | ⟨id, opened, allowed⟩
  · have hstore : u.store = w.store := same
    rw [spend_of_refused hstep fun hr => refused (Reply.permission.inj hr)]
    exact ⟨hpool, org, window, rfl, rfl, hperiod, hstore ▸ quota⟩
  · have hstore : u.store.InQuota org plan window := by
      have hu : u.store = _ := opened
      rw [hu]
      exact quota.openSnapshot w.now id
    by_cases hr : r = .ok .allowed
    · obtain ⟨plan', assigned, decided⟩ := allowed hr
      obtain rfl := Option.some.inj (quota.assigned.symm.trans assigned)
      rw [hr] at hstep
      rw [spend_of_allowed hstep hstore.stored]
      refine ⟨hpool, { org with counters := s.count org.counters }, window, rfl, rfl, hperiod,
        hstore.setCounters fun x hx => ?_⟩
      have hx' : u.store.snapshot? org.address window.start = some _ :=
        opened ▸ Store.get?_openSnapshot w.store (Store.baseline org window w.now id)
      obtain rfl := Option.some.inj (hx.symm.trans hx')
      exact room org _ decided (hstore.limit _ hx)
    · rw [spend_of_refused hstep fun hallowed => hr (Reply.permission.inj hallowed)]
      exact ⟨hpool, org, window, rfl, rfl, hperiod, hstore⟩

theorem InQuota.spend (h : w.InQuota address sub plan) (limited : s.IsLimited allowance)
    (goesOn : w.GoesOn sub (w.spend allowance address s)) :
    (w.spend allowance address s).InQuota address sub plan := by
  cases s with
  | wait clock => exact h.wait goesOn
  | newProcess role shape =>
    refine h.check (congrArg (fun a => (w.run a).map Reply.permission id)
      (Entitlement.checkTx_newProcess allowance shape address role))
        fun org base decided within => ?_
    have room := (room_of_newProcess decided).resolve_right (Int.not_le.mpr limited)
    exact Spending.within_newProcess within room
  | publishCensus role n email sms =>
    refine h.check (congrArg (fun a => (w.run a).map Reply.permission id)
      (Entitlement.checkQuota_publishCensus allowance address role n email sms))
        fun org base decided within => ?_
    obtain ⟨emails, messages⟩ := room_of_publishCensus decided
    exact Spending.within_publishCensus within limited emails messages

theorem InQuota.spendAll (h : w.InQuota address sub plan)
    (regular : w.Regular allowance address sub steps) :
    (w.spendAll allowance address steps).InQuota address sub plan := by
  induction steps generalizing w with
  | nil => exact h
  | cons s rest ih => exact ih (h.spend regular.1 regular.2.1) regular.2.2

theorem Regular.of_append {past rest : List Spending}
    (h : w.Regular allowance address sub (past ++ rest)) :
    w.Regular allowance address sub past := by
  induction past generalizing w with
  | nil => trivial
  | cons s past ih => exact ⟨h.1, h.2.1, ih h.2.2⟩

/-- What a usage query answers in such a world, when the store answers. -/
theorem InQuota.usage (h : w.InQuota address sub plan) :
    ∃ usage, (w.answering.run (Usage.ofAddress address)).1 = .ok usage ∧
      usage.periodActive = true ∧ usage.counters.Within plan.limits := by
  obtain ⟨pool, org, window, rfl, rfl, hwindow, quota⟩ := h
  have gives := run_gives (Usage.ofAddress org.address) (open_answering pool)
  rcases Usage.gives_ofAddress (s := w.answering.scene) gives with
    ⟨hnone | fails, -⟩ | ⟨org', stored, hcases⟩
  · have absent : w.store.organization? org.address = none := hnone
    rw [quota.stored] at absent
    cases absent
  · exact fails.elim
  · obtain rfl : org = org' := Option.some.inj (quota.stored.symm.trans stored)
    rcases hcases with ⟨hnone, -⟩ | ⟨window', id, hw, answered, -⟩
    · have absent : currentPeriod? org.subscription w.now = none := hnone
      rw [hwindow] at absent
      cases absent
    · obtain rfl : window = window' := Option.some.inj (hwindow.symm.trans hw)
      exact ⟨_, answered, rfl,
        (quota.openSnapshot w.now id).limit _ (Store.get?_openSnapshot _ _)⟩

/-- An organization on a yearly plan that does what it is allowed to do, counts it, and does
nothing else, is within the limits of its plan in the current period, in every state of every such
run; the clock may go on as far as it likes, through as many periods as it likes. -/
theorem quota_sound {org : Organization} (sound : w.store.Sound) (pool : w.poolClosed = false)
    (unopened : w.store.snapshots = ∅) (stored : w.store.organization? address = some org)
    (assigned : w.store.plans.get? org.subscription.planId = some plan)
    (current : (currentPeriod? org.subscription w.now).isSome = true)
    (regular : w.Regular allowance address org.subscription steps) :
    ∀ past rest, steps = past ++ rest →
      ∃ usage, ((w.spendAll allowance address past).answering.run (Usage.ofAddress address)).1 =
          .ok usage ∧
        usage.periodActive = true ∧ usage.counters.Within plan.limits := by
  intro past rest hsplit
  subst hsplit
  obtain ⟨window, hwindow⟩ := Option.isSome_iff_exists.mp current
  have haddress := sound.organization _ _ stored
  have unopened' (k : SnapshotKey) : w.store.snapshots.get? k = none := by
    rw [unopened]
    exact Table.get?_empty k
  have start : w.InQuota address org.subscription plan := by
    refine ⟨pool, org, window, haddress, rfl, hwindow, sound, haddress.symm ▸ stored, assigned,
      fun k x hx => ?_, fun x hx => ?_⟩
    · rw [unopened'] at hx
      cases hx
    · have hnone := unopened' ⟨org.address, window.start.instant⟩
      cases hnone.symm.trans hx
  exact (start.spendAll regular.of_append).usage

/-- One process a year: of three that are asked for in two years, two are started. -/
theorem one_process_a_year :
    let yearly : Plan := { (default : Plan) with
      id := 2
      limits := { PlanLimits.none with
        maxProcesses := 1, maxCensus := 100, maxDurationDays := 30 } }
    let org : Organization :=
      ⟨"0xa1", Reconcile.liveSubscription sampleSubscription yearly default none, ⟨5, 0, 0⟩⟩
    let w := sample.withStore ((Store.sample.setPlan yearly).1.setOrganization org)
    let vote : Spending := .newProcess .admin ⟨50, 7, false, false, false⟩
    let after := w.spendAll 10 "0xa1" [vote, vote, .wait (newYear 2025 (by decide)), vote]
    (after.store.organization? "0xa1").map (·.counters.processes) = some 7 ∧
      ∃ usage, (after.answering.run (Usage.ofAddress "0xa1")).1 = .ok usage ∧
        usage.periodActive = true ∧ usage.counters.Within yearly.limits := by
  intro yearly org w vote after
  have sound : w.store.Sound := (Store.sample_sound.setPlan _).setOrganization _
  have stored : w.store.organization? "0xa1" = some org := by decide +kernel
  have assigned : w.store.plans.get? org.subscription.planId = some yearly := by decide +kernel
  have current : (currentPeriod? org.subscription w.now).isSome = true := by decide +kernel
  have limited : (10 : Int) < 50 := by decide
  have regular : w.Regular 10 "0xa1" org.subscription
      [vote, vote, .wait (newYear 2025 (by decide)), vote] :=
    ⟨limited, ⟨by decide +kernel, by decide +kernel, by decide +kernel⟩,
      limited, ⟨by decide +kernel, by decide +kernel, by decide +kernel⟩,
      trivial, ⟨by decide +kernel, by decide +kernel, by decide +kernel⟩,
      limited, ⟨by decide +kernel, by decide +kernel, by decide +kernel⟩, trivial⟩
  exact ⟨by decide +kernel, quota_sound sound rfl rfl stored assigned current regular
    [vote, vote, .wait (newYear 2025 (by decide)), vote] [] rfl⟩

end World

end TenantBilling
