import TenantBilling.Health.Check
import TenantBilling.Proc

/-! Checks of a store that may fail to answer. -/

namespace TenantBilling.Health

open TenantBilling

def load : Action (List Plan × List Organization) := do
  let plans ← Action.store .plans
  let orgs ← Action.store .organizations
  pure (plans, orgs)

/-- Runs all checks. -/
def inspect : Action HealthSummary := do
  let checkedAt ← Action.now
  let (plans, orgs) ← load
  pure (summarize checkedAt plans orgs)

/-- Runs the check of a name; the store is asked nothing when no check has it. -/
def inspectNamed (name : String) : Action (List Violation) :=
  match Check.ofName? name with
  | none => pure []
  | some check => do
    let (plans, orgs) ← load
    pure (check.run plans orgs)

end TenantBilling.Health
