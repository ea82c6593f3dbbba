import TenantBilling.Encoding.Account

/-! Violations of what billing relies on, and summaries of checks for them. -/

namespace TenantBilling

open Json

inductive Severity where
  /-- Cancellations cannot be handled, or limits cannot be looked up. -/
  | critical
  /-- An organization is held to the wrong limits. -/
  | high
  /-- Stale data to look into. -/
  | medium
deriving DecidableEq, Inhabited

namespace Severity

def name : Severity → String
  | critical => "Critical"
  | high => "High"
  | medium => "Medium"

/-- The severity as it is shown. -/
def label : Severity → String
  | critical => "CRITICAL"
  | high => "HIGH"
  | medium => "MEDIUM"

end Severity

structure Violation where
  /-- The check that found it. -/
  check : String
  /-- The organizations it affects. -/
  addresses : List String
  description : String
  /-- What is needed to look into it. -/
  context : Value
  severity : Severity

structure HealthSummary where
  checkedAt : Calendar.DateTime
  checksRun : Nat
  checksPassed : Nat
  checksFailed : Nat
  violations : List Violation
  healthy : Bool

namespace Encoding

def severity? (s : Site) : Option Severity :=
  s.variant? fun name =>
    if name = "Critical" then some .critical
    else if name = "High" then some .high
    else if name = "Medium" then some .medium
    else none

def ofSeverity (s : Severity) : Value := .string s.name

def violation? (s : Site) : Option Violation := do
  let f ← s.slots? ["invariant", "org_addresses", "description", "context", "severity"]
  let check ← f.required "invariant" Site.text?
  let addresses ← f.required "org_addresses" (Site.list? Site.text?)
  let description ← f.required "description" Site.text?
  let context ← f.required "context" Site.value?
  let severity ← f.required "severity" severity?
  pure { check, addresses, description, context, severity }

def ofViolation (v : Violation) : Value :=
  .object [("invariant", .string v.check), ("org_addresses", .array (v.addresses.map .string)),
    ("description", .string v.description), ("context", v.context),
    ("severity", ofSeverity v.severity)]

def summary? (s : Site) : Option HealthSummary := do
  let f ← s.slots? ["checked_at", "checks_run", "checks_passed", "checks_failed", "violations",
    "healthy"]
  let checkedAt ← f.required "checked_at" dateTime?
  let checksRun ← f.required "checks_run" Site.nat64?
  let checksPassed ← f.required "checks_passed" Site.nat64?
  let checksFailed ← f.required "checks_failed" Site.nat64?
  let violations ← f.required "violations" (Site.list? violation?)
  let healthy ← f.required "healthy" Site.bool?
  pure { checkedAt, checksRun, checksPassed, checksFailed, violations, healthy }

def ofSummary (s : HealthSummary) : Value :=
  .object [("checked_at", ofDateTime s.checkedAt), ("checks_run", .int s.checksRun),
    ("checks_passed", .int s.checksPassed), ("checks_failed", .int s.checksFailed),
    ("violations", .array (s.violations.map ofViolation)), ("healthy", .bool s.healthy)]

end Encoding

end TenantBilling
