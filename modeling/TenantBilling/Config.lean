import TenantBilling.Error
import TenantBilling.Ledger
import TenantBilling.Text.Blank
import TenantBilling.Text.Utf8

/-! Configuration from environment variables. A variable that is not set, or whose bytes are
no text, leaves the default; one that is set but cannot be read is an error. -/

namespace TenantBilling

/-- The variables that are set, as bytes. -/
structure Environment where
  values : Table String (List UInt8)

namespace Environment

def text? (env : Environment) (name : String) : Option String :=
  (env.values.get? name).bind Text.Utf8.text?

end Environment

/-- What is wrong with a variable. -/
inductive ConfigFault where
  | missing (name : String)
  | invalid (name value : String)
  | zero (name : String)
deriving DecidableEq

def ConfigFault.message : ConfigFault → String
  | missing name => name ++ " must be set"
  | invalid name value => name ++ " has an invalid value: " ++ value
  | zero name => name ++ " must be greater than zero"

/-- Credentials for the provider, and how calls to and from it are treated. -/
structure ProviderConfig where
  secretKey : String
  webhookSecret : String
  /-- Seconds a signed delivery may be away from the present. -/
  webhookTolerance : Int
  /-- Seconds a call may take. -/
  requestTimeout : Nat
deriving DecidableEq

structure Config where
  provider : ProviderConfig
  /-- Seconds for which processed events are remembered. -/
  idempotencyTtl : Nat
  /-- Seconds between sweeps of the ledger. -/
  sweepInterval : Nat
  /-- Seconds between evictions of idle locks. -/
  evictionInterval : Nat
  testCensusAllowance : Int
deriving DecidableEq

namespace Config

def defaultTolerance : Int := 300

def defaultTimeout : Nat := 10

def defaultTtlHours : Nat := 24

def defaultSweepInterval : Nat := 300

def defaultEvictionInterval : Nat := 600

def defaultAllowance : Int := 10

/-- A variable that has to be set to more than blanks. -/
def required (env : Environment) (name : String) : Except ConfigFault String :=
  match env.text? name with
  | none => .error (.missing name)
  | some value => if Text.isAllBlank value then .error (.missing name) else .ok value

/-- The number in a variable, blanks around it ignored. -/
def number {α : Type} (env : Environment) (name : String) (default : α)
    (read : List Char → Option α) : Except ConfigFault α :=
  match env.text? name with
  | none => .ok default
  | some value =>
    match read (Text.trimChars value.toList) with
    | some n => .ok n
    | none => .error (.invalid name value)

/-- A number of seconds between two runs of a task, which cannot be zero. -/
def interval (env : Environment) (name : String) (default : Nat) : Except ConfigFault Nat := do
  let n ← number env name default Text.Numeral.nat64?
  if n = 0 then .error (.zero name) else pure n

def providerOf (env : Environment) : Except ConfigFault ProviderConfig := do
  let secretKey ← required env "STRIPE_SECRET_KEY"
  let webhookSecret ← required env "STRIPE_WEBHOOK_SECRET"
  let webhookTolerance ←
    number env "STRIPE_WEBHOOK_TOLERANCE_SECS" defaultTolerance Text.Numeral.int64?
  let requestTimeout ← number env "STRIPE_REQUEST_TIMEOUT_SECS" defaultTimeout Text.Numeral.nat64?
  pure { secretKey, webhookSecret, webhookTolerance, requestTimeout }

/-- How long processed events are remembered, which needs no credentials. The seconds are exact up
to 5124095576030431 hours, the most whose product still fits a word of 64 bits. -/
def ttlOf (env : Environment) : Except ConfigFault Nat := do
  let hours ← number env "IDEMPOTENCY_TTL_HOURS" defaultTtlHours Text.Numeral.nat64?
  pure (hours * 3600)

def billingOf (env : Environment) : Except ConfigFault Config := do
  let provider ← providerOf env
  let idempotencyTtl ← ttlOf env
  let sweepInterval ← interval env "LEDGER_SWEEP_INTERVAL_SECS" defaultSweepInterval
  let evictionInterval ← interval env "LOCK_EVICTION_INTERVAL_SECS" defaultEvictionInterval
  let testCensusAllowance ←
    number env "TEST_CENSUS_ALLOWANCE" defaultAllowance Text.Numeral.int64?
  pure { provider, idempotencyTtl, sweepInterval, evictionInterval, testCensusAllowance }

def asBilling {α : Type} (result : Except ConfigFault α) : Except BillingError α :=
  result.mapError fun fault => .config fault.message

/-- The provider's configuration in an environment. -/
def providerFromEnvironment (env : Environment) : Except BillingError ProviderConfig :=
  asBilling (providerOf env)

def ttlFromEnvironment (env : Environment) : Except BillingError Nat := asBilling (ttlOf env)

/-- The whole configuration in an environment. -/
def fromEnvironment (env : Environment) : Except BillingError Config := asBilling (billingOf env)

/-- The configuration with nothing but the credentials given. -/
def withDefaults (secretKey webhookSecret : String) : Config where
  provider := {
    secretKey
    webhookSecret
    webhookTolerance := defaultTolerance
    requestTimeout := defaultTimeout }
  idempotencyTtl := defaultTtlHours * 3600
  sweepInterval := defaultSweepInterval
  evictionInterval := defaultEvictionInterval
  testCensusAllowance := defaultAllowance

/-- A number of seconds as it is shown; none is shown in the smallest unit. -/
def seconds (n : Nat) : String := if n = 0 then "0ns" else Text.decimal n ++ "s"

/-- A record as it is shown: its name, and its fields in braces. -/
def shown (name : String) (fields : List (String × String)) : String :=
  name ++ " \x7b " ++ ", ".intercalate (fields.map fun (k, v) => k ++ ": " ++ v) ++ " \x7d"

/-- The provider's configuration as it is shown, without its secrets. -/
def describeProvider (c : ProviderConfig) : String :=
  shown "StripeConfig" [("secret_key", "\"[redacted]\""), ("webhook_secret", "\"[redacted]\""),
    ("webhook_tolerance_secs", Text.decimal c.webhookTolerance),
    ("request_timeout", seconds c.requestTimeout)]

/-- The configuration as it is shown, without its secrets. -/
def describe (c : Config) : String :=
  shown "BillingConfig" [("stripe", describeProvider c.provider),
    ("idempotency_ttl", seconds c.idempotencyTtl),
    ("ledger_sweep_interval", seconds c.sweepInterval),
    ("lock_eviction_interval", seconds c.evictionInterval),
    ("test_census_allowance", Text.decimal c.testCensusAllowance)]

/-- The time to live of marks under this configuration, in nanoseconds. -/
def ledgerTtl (c : Config) : Int := Ledger.ttlOf c.idempotencyTtl 0

end Config

end TenantBilling
