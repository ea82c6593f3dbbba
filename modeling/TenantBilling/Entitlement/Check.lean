import TenantBilling.Entitlement.Decision
import TenantBilling.Usage.Meter

/-! Permission checks: they gather what a decision depends on, and decide. A plan that cannot
be found is an error, never a plan without limits. -/

namespace TenantBilling.Entitlement

open TenantBilling

def loadPlan (org : Organization) : Action Plan := do
  let id := org.subscription.planId
  Action.orFail (← Action.store (.plan id))
    (.planNotFound ("plan " ++ Text.decimal id ++ " of " ++ org.address))

/-- The usage a transaction is decided on. -/
def txUsage (org : Organization) (tx : TxRequest) : Action Counters :=
  if tx.needsUsage then (·.counters) <$> Usage.ofOrganization org else pure org.counters

/-- The usage and the count an action is decided on. -/
def quotaUsage (org : Organization) (address : String) : QuotaAction → Action (Counters × Int)
  | .createDraft => do pure (org.counters, ← Action.store (.countDrafts address))
  | .inviteUser => do pure (org.counters, ← Action.store (.countMembers address))
  | .createSubOrg => do pure (org.counters, ← Action.store (.countSubOrgs address))
  | .publishCensus _ _ _ => do pure ((← Usage.ofOrganization org).counters, 0)
  | .deleteUser => pure (org.counters, 0)

/-- Whether a role in an organization may submit a transaction. -/
def checkTx (allowance : Int) (tx : TxRequest) (address : String) (role : Role) :
    Action Permission := do
  let org ← Usage.loadOrganization address
  match subscriptionGate org.subscription with
  | .error reason => pure (.denied reason)
  | .ok () =>
    let plan ← loadPlan org
    let usage ← txUsage org tx
    pure (evaluateTx ⟨role, org.subscription, plan, usage, allowance⟩ tx)

/-- Whether a role in an organization may perform an action. -/
def checkQuota (allowance : Int) (address : String) (role : Role) (action : QuotaAction) :
    Action Permission := do
  let org ← Usage.loadOrganization address
  match subscriptionGate org.subscription with
  | .error reason => pure (.denied reason)
  | .ok () =>
    let plan ← loadPlan org
    let (usage, count) ← quotaUsage org address action
    pure (evaluateQuota ⟨role, org.subscription, plan, usage, allowance⟩ action count)

end TenantBilling.Entitlement
