import TenantBilling.Proc
import TenantBilling.Usage.Period

/-! Usage of the current period: lifetime counters less the baseline of the period, which is
taken from the counters when the period is first seen. -/

namespace TenantBilling

structure PeriodUsage where
  counters : Counters
  /-- Whether the counters are those of a period, and not of the whole lifetime. -/
  periodActive : Bool
  period : Option Window
deriving DecidableEq

namespace Usage

/-- The stored organization. -/
def loadOrganization (address : String) : Action Organization := do
  Action.orFail (← Action.store (.organization address)) (.organizationNotFound address)

/-- Stores the counters of an organization as the baseline of a period. A baseline that was
stored meanwhile stays, and is the answer. -/
def openPeriod (org : Organization) (window : Window) : Action Snapshot := do
  let id ← Action.freshId
  let createdAt ← Action.now
  Action.store (.openSnapshot {
    id
    address := org.address
    periodStart := window.start
    periodEnd := window.stop
    period := org.subscription.period
    baseline := org.counters
    createdAt })

/-- The baseline of a period, taken now if it is not stored yet. -/
def baselineOf (org : Organization) (window : Window) : Action Snapshot := do
  match ← Action.store (.snapshot org.address window.start) with
  | some stored => pure stored
  | none => openPeriod org window

/-- The usage of an organization in its current period; lifetime counters without a period. -/
def ofOrganization (org : Organization) : Action PeriodUsage := do
  match currentPeriod? org.subscription (← Action.now) with
  | none => pure ⟨org.counters, false, none⟩
  | some window =>
    let snapshot ← baselineOf org window
    pure ⟨org.counters.since snapshot.baseline, true, some window⟩

def ofAddress (address : String) : Action PeriodUsage := do
  ofOrganization (← loadOrganization address)

/-- Makes sure the current period has a baseline; none without a period. -/
def ensureSnapshot (org : Organization) : Action (Option Snapshot) := do
  match currentPeriod? org.subscription (← Action.now) with
  | none => pure none
  | some window => some <$> baselineOf org window

end Usage

end TenantBilling
