import TenantBilling.Proofs.Baselines

/-! Permission checks against the decisions they stand for. A check gathers no more than its request
needs, and stops at the first thing that is missing; what it answers is nevertheless the decision
on everything there is in the store. When calls to the store fail it answers that, or as if none
had failed: it never gives or refuses a permission for want of an answer. -/

namespace TenantBilling

open Calendar

/-! ## What a decision is about -/

namespace Store

/-- What an organization has used of its current period, or over its lifetime where there is none.
Nothing is used yet of a period that is not open. -/
def periodUsage (s : Store) (org : Organization) (now : DateTime) : Counters :=
  match currentPeriod? org.subscription now with
  | none => org.counters
  | some window =>
    match s.snapshot? org.address window.start with
    | none => .zero
    | some x => org.counters.since x.baseline

/-- How many there are of the resource that an action adds to. -/
def countFor (s : Store) (address : String) : QuotaAction → Int
  | .createDraft => countOf s.drafts address
  | .inviteUser => countOf s.members address
  | .createSubOrg => countOf s.subOrgs address
  | .deleteUser => 0
  | .publishCensus _ _ _ => 0

/-- The answer to a request: what is missing for a decision, or the decision on the stored
organization and its plan. -/
def permit (s : Store) (address : String) (decision : Organization → Plan → Permission) :
    Except BillingError Permission :=
  match s.organization? address with
  | none => .error (.organizationNotFound address)
  | some org =>
    match subscriptionGate org.subscription with
    | .error reason => .ok (.denied reason)
    | .ok () =>
      match s.plans.get? org.subscription.planId with
      | none => .error (.planNotFound
          ("plan " ++ Text.decimal org.subscription.planId ++ " of " ++ org.address))
      | some plan => .ok (decision org plan)

/-- Nothing is new, unless the current period of the organization at an address is open now and
was not before. -/
def LookedUp (s : Store) (address : String) (now : DateTime) (t : Store) : Prop :=
  t = s ∨ ∃ org window id, s.organization? address = some org ∧
    currentPeriod? org.subscription now = some window ∧
    s.snapshot? org.address window.start = none ∧
    t = (s.openSnapshot (baseline org window now id)).1

end Store

/-- What a check does in a world, for a decision on the organization at an address. -/
structure World.Decides (w : World) (check : Action Permission) (address : String)
    (decision : Organization → Plan → Permission) : Prop where
  /-- Without failures it is the decision. -/
  exact : w.poolClosed = false → w.desk.outages = .none →
    (w.run check).1 = (w.store.permit address decision).mapError .error
  /-- Whatever fails, it is the decision or that failure. -/
  failsClosed : (w.run check).1 = (w.store.permit address decision).mapError .error ∨
    ∃ e, (w.run check).1 = .error (.error e) ∧ (∃ detail, e = .database detail) ∧
      e.isRetryable = true
  store : w.store.LookedUp address w.now (w.run check).2.store
  rest : (w.run check).2 =
    { w with desk := (w.run check).2.desk, nextId := (w.run check).2.nextId }

section Decisions
variable {role : Role} {sub : Subscription} {plan : Plan} {allowance : Int}

/-- A transaction that does not need the usage is decided without it. -/
theorem evaluateTx_of_not_needsUsage {tx : TxRequest} (h : tx.needsUsage = false)
    (used used' : Counters) : evaluateTx ⟨role, sub, plan, used, allowance⟩ tx =
      evaluateTx ⟨role, sub, plan, used', allowance⟩ tx := by
  cases tx with
  | newProcess shape => cases h
  | _ => rfl

end Decisions

/-! ## Checks -/

namespace Entitlement
open TenantBilling.Action
variable {α : Type} {mayFail : Prop} {s t : Scene} {address : String} {org : Organization}

/-- A check that gathers something for its decision. -/
def checked (address : String) (gather : Organization → Action α)
    (decision : Organization → Plan → α → Permission) : Action Permission := do
  let org ← Usage.loadOrganization address
  match subscriptionGate org.subscription with
  | .error reason => pure (.denied reason)
  | .ok () =>
    let plan ← loadPlan org
    let gathered ← gather org
    pure (decision org plan gathered)

theorem checkTx_eq (allowance : Int) (tx : TxRequest) (address : String) (role : Role) :
    checkTx allowance tx address role = checked address (txUsage · tx) fun org plan used =>
      evaluateTx ⟨role, org.subscription, plan, used, allowance⟩ tx := rfl

theorem checkQuota_eq (allowance : Int) (address : String) (role : Role) (action : QuotaAction) :
    checkQuota allowance address role action =
      checked address (quotaUsage · address action) fun org plan gathered =>
        evaluateQuota ⟨role, org.subscription, plan, gathered.1, allowance⟩ action gathered.2 := rfl

/-- What is gathered serves a decision as well as what there is in the store; it can only be that a
call fails. -/
def Serves (mayFail : Prop) (address : String) (gather : Organization → Action α)
    (decision : Organization → Plan → α → Permission) (truth : Organization → Plan → Permission)
    (s : Scene) : Prop :=
  ∀ org plan, s.store.organization? address = some org → ∀ r t, (gather org).Gives mayFail s r t →
    (∃ gathered, r = .ok gathered ∧ decision org plan gathered = truth org plan ∧
      s.store.LookedUp address s.now t.store) ∨
    (mayFail ∧ (∃ op, r = .error (.storeDown op)) ∧ t = s)

/-- A check stops at what is missing, and comes to the decision otherwise. -/
theorem gives_checked {gather : Organization → Action α}
    {decision : Organization → Plan → α → Permission} {truth : Organization → Plan → Permission}
    {r : Except Failure Permission} (serves : Serves mayFail address gather decision truth s)
    (h : (checked address gather decision).Gives mayFail s r t) :
    (r = (s.store.permit address truth).mapError .error ∨
        mayFail ∧ ∃ op, r = .error (.storeDown op)) ∧
      s.store.LookedUp address s.now t.store := by
  unfold Store.permit
  rcases Usage.gives_bind_loadOrganization h with ⟨org, stored, h⟩ | ⟨absent, rfl, rfl⟩ |
    ⟨hf, rfl, rfl⟩
  · simp only [stored]
    cases gate : subscriptionGate org.subscription with
    | error reason =>
      rw [gate] at h
      obtain ⟨rfl, rfl⟩ := gives_pure.mp h
      exact ⟨Or.inl rfl, Or.inl rfl⟩
    | ok =>
      rw [gate] at h
      rcases gives_bind_loadPlan h with ⟨plan, assigned, h⟩ | ⟨absent, rfl, rfl⟩ | ⟨hf, rfl, rfl⟩
      · simp only [assigned]
        rcases gives_bind.mp h with ⟨gathered, u, hx, h⟩ | ⟨f, hx, rfl⟩
        · obtain ⟨rfl, rfl⟩ := gives_pure.mp h
          rcases serves org plan stored _ _ hx with ⟨x, hr, same, looked⟩ | ⟨-, ⟨op, hr⟩, -⟩
          · obtain rfl := Except.ok.inj hr
            exact ⟨Or.inl (congrArg Except.ok same), looked⟩
          · cases hr
        · rcases serves org plan stored _ _ hx with ⟨x, hr, -⟩ | ⟨hf, ⟨op, hr⟩, rfl⟩
          · cases hr
          · obtain rfl := Except.error.inj hr
            exact ⟨Or.inr ⟨hf, op, rfl⟩, Or.inl rfl⟩
      · simp only [absent]
        exact ⟨Or.inl rfl, Or.inl rfl⟩
      · exact ⟨Or.inr ⟨hf, _, rfl⟩, Or.inl rfl⟩
  · simp only [absent]
    exact ⟨Or.inl rfl, Or.inl rfl⟩
  · exact ⟨Or.inr ⟨hf, _, rfl⟩, Or.inl rfl⟩

/-! ## What checks gather -/

/-- The usage of an organization is that of its period, whether the period was open or not. -/
theorem gives_usage (stored : s.store.organization? address = some org)
    {r : Except Failure PeriodUsage} (h : (Usage.ofOrganization org).Gives mayFail s r t) :
    (∃ usage, r = .ok usage ∧ usage.counters = s.store.periodUsage org s.now ∧
      s.store.LookedUp address s.now t.store) ∨
    (mayFail ∧ (∃ op, r = .error (.storeDown op)) ∧ t = s) := by
  unfold Store.periodUsage
  rcases Usage.gives_ofOrganization h with
    ⟨none, rfl, rfl⟩ | ⟨window, current, ⟨id, rfl, rfl⟩ | ⟨hf, failed, rfl⟩⟩
  · simp only [none]
    exact Or.inl ⟨_, rfl, rfl, Or.inl rfl⟩
  · simp only [current]
    cases found : s.store.snapshot? org.address window.start with
    | some x =>
      have key : s.store.snapshots.get? (Store.baseline org window s.now id).key = some x := found
      rw [Store.openSnapshot_of_stored key]
      exact Or.inl ⟨_, rfl, rfl, Or.inl rfl⟩
    | none =>
      have key : s.store.snapshots.get? (Store.baseline org window s.now id).key = none := found
      refine Or.inl ⟨_, rfl, ?_, Or.inr ⟨org, window, id, stored, current, found, rfl⟩⟩
      rw [Store.openSnapshot_of_fresh key]
      exact Counters.since_self _
  · exact Or.inr ⟨hf, failed, rfl⟩

theorem serves_txUsage (role : Role) (allowance : Int) (tx : TxRequest) (s : Scene) :
    Serves mayFail address (txUsage · tx)
      (fun org plan used => evaluateTx ⟨role, org.subscription, plan, used, allowance⟩ tx)
      (fun org plan => evaluateTx
        ⟨role, org.subscription, plan, s.store.periodUsage org s.now, allowance⟩ tx) s := by
  intro org plan stored r t h
  unfold txUsage at h
  dsimp only at h
  split at h
  · obtain ⟨q, hx, rfl⟩ := gives_map.mp h
    rcases gives_usage stored hx with ⟨usage, rfl, counters, looked⟩ | ⟨hf, ⟨op, rfl⟩, same⟩
    · refine Or.inl ⟨_, rfl, ?_, looked⟩
      exact congrArg (fun used => evaluateTx ⟨role, org.subscription, plan, used, allowance⟩ tx)
        counters
    · exact Or.inr ⟨hf, ⟨op, rfl⟩, same⟩
  · rename_i notNeeded
    obtain ⟨rfl, rfl⟩ := gives_pure.mp h
    exact Or.inl ⟨_, rfl, evaluateTx_of_not_needsUsage (Bool.eq_false_iff.mpr notNeeded) _ _,
      Or.inl rfl⟩

/-- A count is read, or the call for it fails. -/
theorem gives_count {c : StoreCall} {n : c.Answer} (counted : s.store.answer c = (.ok n, s.store))
    {f : c.Answer → α} {r : Except Failure α}
    (h : (do pure (f (← store c)) : Action α).Gives mayFail s r t) :
    (r = .ok (f n) ∧ t = s) ∨ (mayFail ∧ (∃ op, r = .error (.storeDown op)) ∧ t = s) := by
  rcases gives_bind_read counted h with h | ⟨hf, rfl, rfl⟩
  · exact Or.inl (gives_pure.mp h)
  · exact Or.inr ⟨hf, ⟨_, rfl⟩, rfl⟩

theorem serves_quotaUsage (role : Role) (allowance : Int) (action : QuotaAction) (s : Scene) :
    Serves mayFail address (quotaUsage · address action)
      (fun org plan gathered => evaluateQuota
        ⟨role, org.subscription, plan, gathered.1, allowance⟩ action gathered.2)
      (fun org plan => evaluateQuota
        ⟨role, org.subscription, plan, s.store.periodUsage org s.now, allowance⟩ action
        (s.store.countFor address action)) s := by
  intro org plan stored r t h
  cases action with
  | createDraft =>
    refine (gives_count rfl h).imp ?_ id
    rintro ⟨rfl, rfl⟩
    exact ⟨_, rfl, rfl, Or.inl rfl⟩
  | inviteUser =>
    refine (gives_count rfl h).imp ?_ id
    rintro ⟨rfl, rfl⟩
    exact ⟨_, rfl, rfl, Or.inl rfl⟩
  | createSubOrg =>
    refine (gives_count rfl h).imp ?_ id
    rintro ⟨rfl, rfl⟩
    exact ⟨_, rfl, rfl, Or.inl rfl⟩
  | deleteUser =>
    obtain ⟨rfl, rfl⟩ := gives_pure.mp h
    exact Or.inl ⟨_, rfl, rfl, Or.inl rfl⟩
  | publishCensus n email sms =>
    rcases gives_bind.mp h with ⟨usage, u, hx, h⟩ | ⟨f, hx, rfl⟩
    · obtain ⟨rfl, rfl⟩ := gives_pure.mp h
      rcases gives_usage stored hx with ⟨usage', hr, counters, looked⟩ | ⟨-, ⟨op, hr⟩, -⟩
      · obtain rfl := Except.ok.inj hr
        exact Or.inl ⟨_, rfl, by rw [counters]; rfl, looked⟩
      · cases hr
    · rcases gives_usage stored hx with ⟨usage', hr, -⟩ | ⟨hf, ⟨op, hr⟩, same⟩
      · cases hr
      · obtain rfl := Except.error.inj hr
        exact Or.inr ⟨hf, ⟨op, rfl⟩, same⟩

end Entitlement

/-! ## Decisions in a world -/

namespace World
open Entitlement
variable {w : World} {address : String} {α : Type} {gather : Organization → Action α}
  {decision : Organization → Plan → α → Permission} {truth : Organization → Plan → Permission}

theorem decides_of_serves
    (serves : ∀ mayFail, Serves mayFail address gather decision truth w.scene)
    (query : (checked address gather decision).Within Call.IsQuery) :
    w.Decides (checked address gather decision) address truth := by
  cases pool : w.poolClosed with
  | true =>
    have failed : (w.run (checked address gather decision)).1 =
        .error (.error ConnectionError.poolClosed.toStore.toBilling) := by
      unfold checked
      rw [run_bind, run_loadOrganization_of_poolClosed pool]
    exact {
      exact := fun opened => nomatch pool.symm.trans opened
      failsClosed := Or.inr ⟨_, failed, ⟨_, rfl⟩, rfl⟩
      store := Or.inl (store_run_of_poolClosed _ pool)
      rest := rest_of_query query w }
  | false =>
    have opened : w.Open (w.desk.outages ≠ .none) := ⟨pool, (Classical.em _).symm⟩
    obtain ⟨answer, lookedUp⟩ := gives_checked (serves _) (run_gives _ opened)
    exact {
      exact := fun _ calm => answer.resolve_right fun failed => failed.1 calm
      failsClosed := answer.imp id fun ⟨_, op, failed⟩ => ⟨_, failed, ⟨_, rfl⟩, rfl⟩
      store := lookedUp
      rest := rest_of_query query w }

/-- The usage that is answered under an address is that of the organization's period. -/
theorem counters_of_usage {org : Organization} {usage : PeriodUsage}
    (stored : w.store.organization? address = some org)
    (answer : (w.run (Usage.ofAddress address)).1 = .ok usage) :
    usage.counters = w.store.periodUsage org w.now := by
  cases pool : w.poolClosed with
  | true =>
    obtain ⟨f, failed⟩ := usage_of_poolClosed pool address
    cases answer.symm.trans failed
  | false =>
    have gives := run_gives (Usage.ofAddress address) (open_of_pool pool)
    rcases Usage.gives_bind_loadOrganization gives with ⟨found, h, gives⟩ | ⟨-, h, -⟩ | ⟨-, h, -⟩
    · obtain rfl : org = found := Option.some.inj (stored.symm.trans h)
      rcases gives_usage h gives with ⟨usage', h, counters, -⟩ | ⟨-, ⟨op, h⟩, -⟩
      · obtain rfl : usage = usage' := Except.ok.inj (answer.symm.trans h)
        exact counters
      · cases answer.symm.trans h
    · cases answer.symm.trans h
    · cases answer.symm.trans h

/-- In any world a check refines the decision on the stored organization, its plan, the usage of
its period and the count of what the action adds to; it fails only as the database does, and leaves
everything as it was but for the opening of the current period. -/
theorem checks_refine_decisions (w : World) (allowance : Int) (address : String) (role : Role) :
    (∀ tx, w.Decides (Entitlement.checkTx allowance tx address role) address fun org plan =>
      evaluateTx ⟨role, org.subscription, plan, w.store.periodUsage org w.now, allowance⟩ tx) ∧
    (∀ action, w.Decides (Entitlement.checkQuota allowance address role action) address
      fun org plan => evaluateQuota
        ⟨role, org.subscription, plan, w.store.periodUsage org w.now, allowance⟩ action
        (w.store.countFor address action)) ∧
    ∀ org usage, w.store.organization? address = some org →
      (w.run (Usage.ofAddress address)).1 = .ok usage →
      usage.counters = w.store.periodUsage org w.now := by
  refine ⟨fun tx => ?_, fun action => ?_, fun _ _ => counters_of_usage⟩
  · have query := checkTx_within allowance tx address role
    rw [checkTx_eq] at query ⊢
    exact decides_of_serves (fun _ => serves_txUsage role allowance tx w.scene) query
  · have query := checkQuota_within allowance address role action
    rw [checkQuota_eq] at query ⊢
    exact decides_of_serves (fun _ => serves_quotaUsage role allowance action w.scene) query

/-- A manager of an organization on an active plan may change the status of a process. -/
theorem manager_sets_status :
    let w := World.sample.withStore (Store.sample.setOrganization
      ⟨"0xa1", { Subscription.blank with planId := 2, active := true }, default⟩)
    (w.run (Entitlement.checkTx 0 .setProcessStatus "0xa1" .manager)).1 = .ok .allowed := by
  intro w
  have decides := (checks_refine_decisions w 0 "0xa1" .manager).1 .setProcessStatus
  rw [decides.exact rfl rfl]
  decide +kernel

end World

end TenantBilling
