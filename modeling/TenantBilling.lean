import TenantBilling.Account.Basic
import TenantBilling.Account.Plan
import TenantBilling.Account.Snapshot
import TenantBilling.Calendar.Date
import TenantBilling.Calendar.DateTime
import TenantBilling.Catalog
import TenantBilling.Config
import TenantBilling.Delivery
import TenantBilling.Digest.Hmac
import TenantBilling.Digest.Sha256
import TenantBilling.Encoding.Account
import TenantBilling.Encoding.Moment
import TenantBilling.Entitlement.Check
import TenantBilling.Entitlement.Decision
import TenantBilling.Entitlement.Denial
import TenantBilling.Entitlement.Request
import TenantBilling.Error
import TenantBilling.Event.Basic
import TenantBilling.Event.Parser
import TenantBilling.Event.Payload
import TenantBilling.Health.Check
import TenantBilling.Health.Inspect
import TenantBilling.Health.Violation
import TenantBilling.Json.Number
import TenantBilling.Json.Record
import TenantBilling.Json.Shortest
import TenantBilling.Json.Tree
import TenantBilling.Json.Value
import TenantBilling.Json.Writer
import TenantBilling.Ledger
import TenantBilling.LockTable
import TenantBilling.Maintenance
import TenantBilling.Outages
import TenantBilling.Proc
import TenantBilling.Proofs.Acceptance
import TenantBilling.Proofs.Atomicity
import TenantBilling.Proofs.Baselines
import TenantBilling.Proofs.ClosedForm
import TenantBilling.Proofs.Commutation
import TenantBilling.Proofs.Convergence
import TenantBilling.Proofs.Dates
import TenantBilling.Proofs.Duplicates
import TenantBilling.Proofs.Changes
import TenantBilling.Proofs.ExactlyOnce
import TenantBilling.Proofs.Execution
import TenantBilling.Proofs.Frame
import TenantBilling.Proofs.Handling
import TenantBilling.Proofs.HealthChecks
import TenantBilling.Proofs.HealthOverRuns
import TenantBilling.Proofs.History
import TenantBilling.Proofs.Insensitivity
import TenantBilling.Proofs.Interleaving
import TenantBilling.Proofs.LockInvariant
import TenantBilling.Proofs.LockSafety
import TenantBilling.Proofs.LostMarks
import TenantBilling.Proofs.Marks
import TenantBilling.Proofs.Openings
import TenantBilling.Proofs.Ownership
import TenantBilling.Proofs.Periods
import TenantBilling.Proofs.PlanRefresh
import TenantBilling.Proofs.QuotaSoundness
import TenantBilling.Proofs.Record
import TenantBilling.Proofs.Repetition
import TenantBilling.Proofs.Replay
import TenantBilling.Proofs.Reclamation
import TenantBilling.Proofs.Retention
import TenantBilling.Proofs.Scene
import TenantBilling.Proofs.Serializability
import TenantBilling.Proofs.Settlement
import TenantBilling.Proofs.Stages
import TenantBilling.Proofs.StoreInvariant
import TenantBilling.Proofs.Sweeps
import TenantBilling.Provider
import TenantBilling.Reconcile
import TenantBilling.Service
import TenantBilling.Signature
import TenantBilling.Store
import TenantBilling.Table
import TenantBilling.Text.Blank
import TenantBilling.Text.Hex
import TenantBilling.Text.Numeral
import TenantBilling.Text.Split
import TenantBilling.Text.Utf8
import TenantBilling.Usage.Meter
import TenantBilling.Usage.Period
import TenantBilling.World
import TenantBilling.Proofs.Anniversaries
import TenantBilling.Proofs.EventValidity
import TenantBilling.Proofs.Permissions
import TenantBilling.Proofs.Behaviours
import TenantBilling.Proofs.ProviderIndependence
import TenantBilling.Proofs.Numerals
import TenantBilling.Proofs.LocalYears
import TenantBilling.Proofs.RuleBook
import TenantBilling.Proofs.Upgrades
import TenantBilling.Proofs.HealthReports
import TenantBilling.Proofs.Signing
import TenantBilling.Proofs.Characters
import TenantBilling.Proofs.Literals
import TenantBilling.Proofs.Documents
import TenantBilling.Proofs.Embedding
import TenantBilling.Proofs.Fields
import TenantBilling.Proofs.Moments
import TenantBilling.Proofs.RoundTrips
import TenantBilling.Proofs.PlanIds
import TenantBilling.Proofs.Cutoffs
