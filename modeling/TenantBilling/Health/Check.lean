import TenantBilling.Health.Violation

/-! Checks of what billing relies on. Each looks at the plans and the organizations and lists
what is wrong; together they say whether the store is healthy. -/

namespace TenantBilling.Health

open TenantBilling

inductive Check where
  | singleDefaultPlan
  | knownPlans
  | defaultPlanHasNoProvider
  | paidPlanHasProvider
deriving DecidableEq

namespace Check

def all : List Check :=
  [singleDefaultPlan, knownPlans, defaultPlanHasNoProvider, paidPlanHasProvider]

def name : Check → String
  | singleDefaultPlan => "single_default_plan"
  | knownPlans => "organizations_reference_known_plans"
  | defaultPlanHasNoProvider => "default_plan_has_no_provider_subscription"
  | paidPlanHasProvider => "paid_plan_has_provider_subscription"

def ofName? (name : String) : Option Check := all.find? fun c => c.name == name

end Check

def count (n : Nat) : String := Text.decimal n

def ids (ns : List Int) : Json.Value := .array (ns.map .int)

def defaultIds (plans : List Plan) : List Int := (plans.filter (·.isDefault)).map (·.id)

/-- Without exactly one default plan, organizations whose subscription ends have nowhere to go. -/
def checkDefault (plans : List Plan) : List Violation :=
  let defaults := defaultIds plans
  if defaults.length = 1 then []
  else [{
    check := Check.singleDefaultPlan.name
    addresses := []
    description := "Catalog has " ++ count defaults.length ++ " default plans (expected 1)"
    context := .object [("default_plan_ids", ids defaults)]
    severity := .critical }]

/-- Whether an organization is assigned a plan that is not in the catalog. -/
def dangles (plans : List Plan) (org : Organization) : Bool :=
  org.subscription.hasPlan && !plans.any fun p => p.id == org.subscription.planId

/-- The violation of the organizations that are assigned one missing plan. -/
def danglingViolation (planId : Int) (addresses : List String) : Violation where
  check := Check.knownPlans.name
  addresses
  description := count addresses.length ++ " organization(s) reference missing plan " ++
    Text.decimal planId
  context := .object [("plan_id", .int planId)]
  severity := .high

/-- One violation for each missing plan, in the order of their descriptions. -/
def checkKnown (plans : List Plan) (orgs : List Organization) : List Violation :=
  let dangling := orgs.filter (dangles plans)
  let missing := (dangling.map (·.subscription.planId)).eraseDups
  (missing.map fun id =>
    danglingViolation id
      ((dangling.filter fun o => o.subscription.planId == id).map (·.address))).mergeSort
    fun a b => a.description ≤ b.description

def isOnDefault (plans : List Plan) (org : Organization) : Bool :=
  (defaultIds plans).contains org.subscription.planId

/-- Organizations on the default plan are not billed by the provider. -/
def checkDefaultPlan (plans : List Plan) (orgs : List Organization) : List Violation :=
  let affected := orgs.filter fun o => isOnDefault plans o && o.subscription.hasProvider
  if affected = [] then []
  else [{
    check := Check.defaultPlanHasNoProvider.name
    addresses := affected.map (·.address)
    description := count affected.length ++
      " organization(s) on the default plan still reference a provider subscription"
    context := .object [("subscription_ids",
      .array (affected.map fun o => .string o.subscription.providerId))]
    severity := .medium }]

/-- Active organizations on another plan are billed by the provider. -/
def checkPaidPlan (plans : List Plan) (orgs : List Organization) : List Violation :=
  let affected := orgs.filter fun o =>
    o.subscription.active && o.subscription.hasPlan && !isOnDefault plans o &&
      !o.subscription.hasProvider
  if affected = [] then []
  else [{
    check := Check.paidPlanHasProvider.name
    addresses := affected.map (·.address)
    description := count affected.length ++
      " active organization(s) on a paid plan have no provider subscription"
    context := .object [("plan_ids", ids (affected.map (·.subscription.planId)))]
    severity := .high }]

def Check.run (plans : List Plan) (orgs : List Organization) : Check → List Violation
  | singleDefaultPlan => checkDefault plans
  | knownPlans => checkKnown plans orgs
  | defaultPlanHasNoProvider => checkDefaultPlan plans orgs
  | paidPlanHasProvider => checkPaidPlan plans orgs

/-- What all checks find, one after the other. -/
def violations (plans : List Plan) (orgs : List Organization) : List Violation :=
  Check.all.flatMap (Check.run plans orgs)

/-- The summary of all checks; a check fails that finds anything. -/
def summarize (checkedAt : Calendar.DateTime) (plans : List Plan) (orgs : List Organization) :
    HealthSummary :=
  let found := violations plans orgs
  let failed := (found.map (·.check)).eraseDups.length
  { checkedAt
    checksRun := Check.all.length
    checksPassed := Check.all.length - failed
    checksFailed := failed
    violations := found
    healthy := found.isEmpty }

/-- What the check of a name finds; nothing for a name that no check has. -/
def runNamed (plans : List Plan) (orgs : List Organization) (name : String) : List Violation :=
  match Check.ofName? name with
  | none => []
  | some check => check.run plans orgs

end TenantBilling.Health
