import TenantBilling.Account.Plan
import TenantBilling.Entitlement.Denial
import TenantBilling.Entitlement.Request

/-! The decision on a request: the first rule that is not met denies it. A decision depends on
nothing but its arguments. -/

namespace TenantBilling

/-- What a decision depends on besides the request. -/
structure DecisionInput where
  role : Role
  subscription : Subscription
  plan : Plan
  /-- What was used in the current period, or over the lifetime where there is no period. -/
  usage : Counters
  /-- The size of a census that may start a process even past the process limit. -/
  testCensusAllowance : Int
deriving DecidableEq

/-- A rule is met, or gives the reason to deny. -/
abbrev Rule := Except DenialReason Unit

namespace Rule

def require (met : Bool) (reason : DenialReason) : Rule :=
  if met then .ok () else .error reason

def permission : Rule → Permission
  | .ok () => .allowed
  | .error reason => .denied reason

end Rule

/-- The rule every request has to meet first: a plan is assigned, and it is active. -/
def subscriptionGate (s : Subscription) : Rule := do
  Rule.require s.hasPlan .noSubscription
  Rule.require s.active .subscriptionInactive

def requireAdmin (role : Role) (action : String) : Rule :=
  Rule.require role.isAdmin (.roleNotAllowed role action)

def requireManager (role : Role) (action : String) : Rule :=
  Rule.require role.canManage (.roleNotAllowed role action)

def requireFeature (requested enabled : Bool) (feature : Feature) : Rule :=
  Rule.require (!requested || enabled) (.featureNotEnabled feature)

def requireCensus (requested : Int) (plan : Plan) : Rule :=
  Rule.require (requested ≤ plan.limits.maxCensus) (.censusTooLarge requested plan.limits.maxCensus)

def requireDuration (requested : Int) (plan : Plan) : Rule :=
  Rule.require (requested ≤ plan.limits.maxDurationDays)
    (.durationTooLong requested plan.limits.maxDurationDays)

/-- What is left of a limit covers a request. -/
def requireAllowance (resource : Allowance) (limit used requested : Int) : Rule :=
  let remaining := max (limit - used) 0
  Rule.require (requested ≤ remaining) (.insufficientAllowance resource remaining requested)

def newProcessRule (i : DecisionInput) (shape : ProcessShape) : Rule := do
  requireCensus shape.censusSize i.plan
  let used := i.usage.processes
  let limit := i.plan.limits.maxProcesses
  Rule.require (used < limit || shape.censusSize ≤ i.testCensusAllowance)
    (.processLimitReached used limit)
  requireFeature shape.anonymous i.plan.features.anonymous .anonymous
  requireFeature shape.weighted i.plan.features.weighted .weighted
  requireFeature shape.voteOverwrite i.plan.features.overwrite .voteOverwrite
  requireDuration shape.durationDays i.plan

def txRule (i : DecisionInput) (tx : TxRequest) : Rule := do
  subscriptionGate i.subscription
  match tx with
  | .newProcess shape => do
    requireAdmin i.role tx.name
    newProcessRule i shape
  | .setProcessCensus censusSize => do
    requireManager i.role tx.name
    requireCensus censusSize i.plan
  | .setProcessDuration durationDays => do
    requireManager i.role tx.name
    requireDuration durationDays i.plan
  | .setProcessStatus => requireManager i.role tx.name
  | .addDelegate => requireAdmin i.role tx.name
  | .delDelegate => requireAdmin i.role tx.name

/-- The decision on a transaction. -/
def evaluateTx (i : DecisionInput) (tx : TxRequest) : Permission := (txRule i tx).permission

/-- A factor that is asked for has to be in the plan, and its messages in the allowance. -/
def factorRule (requested enabled : Bool) (feature : Feature) (resource : Allowance)
    (limit used censusSize : Int) : Rule :=
  if requested then do
    requireFeature true enabled feature
    requireAllowance resource limit used censusSize
  else .ok ()

def quotaRule (i : DecisionInput) (action : QuotaAction) (count : Int) : Rule := do
  subscriptionGate i.subscription
  let limits := i.plan.limits
  let features := i.plan.features
  match action with
  | .createDraft => do
    requireManager i.role action.name
    Rule.require (count < limits.maxDrafts) (.draftLimitReached count limits.maxDrafts)
  | .inviteUser => do
    requireAdmin i.role action.name
    Rule.require (count < limits.maxUsers) (.userLimitReached count limits.maxUsers)
  | .deleteUser => requireAdmin i.role action.name
  | .createSubOrg => do
    requireAdmin i.role action.name
    Rule.require (count < limits.maxSubOrgs) (.subOrgLimitReached count limits.maxSubOrgs)
  | .publishCensus censusSize email sms => do
    requireManager i.role action.name
    requireCensus censusSize i.plan
    factorRule email features.twoFactorEmail .twoFactorEmail .emails limits.maxSentEmails
      i.usage.sentEmails censusSize
    factorRule sms features.twoFactorSms .twoFactorSms .sms limits.maxSentSms
      i.usage.sentSms censusSize

/-- The decision on an action. The count is that of the resource the action adds to: drafts,
members or sub-organizations; other actions do not look at it. -/
def evaluateQuota (i : DecisionInput) (action : QuotaAction) (count : Int) : Permission :=
  (quotaRule i action count).permission

end TenantBilling
