/-! What can go wrong. Every failure is a cause with the text that names it; its message and
whether trying again could help follow from the cause. -/

namespace TenantBilling

/-- Two steps give a result exactly when the second one gives it from what the first one gave. -/
theorem bind_eq_ok_iff {ε α β : Type} {x : Except ε α} {f : α → Except ε β} {b : β} :
    (x >>= f) = .ok b ↔ ∃ a, x = .ok a ∧ f a = .ok b := by
  cases x <;> simp [bind, Except.bind]

/-- Errors told in other words are errors all the same. -/
theorem mapError_eq_ok_iff {ε δ α : Type} {x : Except ε α} {f : ε → δ} {a : α} :
    x.mapError f = .ok a ↔ x = .ok a := by
  cases x with
  | error e =>
    show Except.error (f e) = .ok a ↔ Except.error e = .ok a
    simp only [reduceCtorEq]
  | ok b =>
    show (.ok b : Except δ α) = .ok a ↔ (.ok b : Except ε α) = .ok a
    simp only [Except.ok.injEq]

/-- Why a billing operation gave no answer. -/
inductive BillingError where
  | signatureInvalid
  | invalidEvent (detail : String)
  | organizationNotFound (what : String)
  | planNotFound (what : String)
  | defaultPlanMissing
  | invalidProviderData (detail : String)
  | providerRefused (detail : String)
  | providerTimeout (operation : String)
  | database (detail : String)
  | config (detail : String)
deriving DecidableEq

namespace BillingError

def message : BillingError → String
  | signatureInvalid => "Invalid webhook signature"
  | invalidEvent detail => "Invalid event: " ++ detail
  | organizationNotFound what => "Organization not found: " ++ what
  | planNotFound what => "Plan not found: " ++ what
  | defaultPlanMissing => "No default plan configured"
  | invalidProviderData detail => "Invalid provider data: " ++ detail
  | providerRefused detail => "Stripe API error: " ++ detail
  | providerTimeout operation => "Payment provider call timed out: " ++ operation
  | database detail => "Database error: " ++ detail
  | config detail => "Configuration error: " ++ detail

/-- Whether the same input could succeed later: storage and provider failures pass. -/
def isRetryable : BillingError → Bool
  | providerRefused _ => true
  | providerTimeout _ => true
  | database _ => true
  | _ => false

end BillingError

/-- Why a storage operation gave no answer. -/
inductive StoreError where
  | notFound (what : String)
  | database (detail : String)
  | serialization (detail : String)
deriving DecidableEq

namespace StoreError

def message : StoreError → String
  | notFound what => "Not found: " ++ what
  | database detail => "Database error: " ++ detail
  | serialization detail => "Serialization error: " ++ detail

/-- What a storage failure is to the billing operation that met it. -/
def toBilling : StoreError → BillingError
  | notFound what => .organizationNotFound what
  | e => .database e.message

end StoreError

/-- How a database connection fails without a query having run. -/
inductive ConnectionError where
  | rowNotFound
  | poolClosed
deriving DecidableEq

namespace ConnectionError

def message : ConnectionError → String
  | rowNotFound => "no rows returned by a query that expected to return at least one row"
  | poolClosed => "attempted to acquire a connection on a closed pool"

def toStore : ConnectionError → StoreError
  | rowNotFound => .notFound "row not found"
  | e => .database e.message

def toBilling (e : ConnectionError) : BillingError := .database e.message

/-- How migrations of the schema end without a connection. -/
def migrating : StoreError := .database ("while executing migrations: " ++ poolClosed.message)

/-- How a pool is refused whose address cannot be read as one of a database. -/
def unreadableUrl : StoreError := .database "error with configuration: "

end ConnectionError

/-- How a call to the payment provider fails before the provider answered it. -/
inductive TransportError where
  | timeout
  | client (detail : String)
deriving DecidableEq

namespace TransportError

def message : TransportError → String
  | timeout => "timeout communicating with stripe"
  | client detail => "error communicating with stripe: " ++ detail

def toBilling (e : TransportError) : BillingError := .providerRefused e.message

end TransportError

/-- Why a request ended without an answer: an error to report, or a computed date that no
calendar year holds. -/
inductive Failure where
  | error (e : BillingError)
  | outOfCalendar
deriving DecidableEq

end TenantBilling
