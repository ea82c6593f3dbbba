import TenantBilling.Encoding.Account
import TenantBilling.Error
import TenantBilling.Text.Blank

/-! The provider's catalog, and the plan that follows from a product and its prices. -/

namespace TenantBilling

structure Product where
  id : String
  name : String
  active : Bool
  metadata : Table String String
deriving DecidableEq

/-- A price of a product; one that is paid once has no interval. -/
structure Price where
  id : String
  active : Bool
  interval : Option BillingPeriod
  unitAmount : Option Int
deriving DecidableEq

def limitsKey : String := "limits"

def featuresKey : String := "features"

def freeTrialDaysKey : String := "free_trial_days"

/-- What is wrong with the metadata of a product. -/
inductive ProductFault where
  | unreadable (product key : String)
  | invalidTrialDays (product value : String)
deriving DecidableEq

/-- The text of a fault; what a reader says of a text that it cannot read comes last. -/
def ProductFault.message (words : String) : ProductFault → String
  | unreadable product key => "product " ++ product ++ " metadata \"" ++ key ++ "\": " ++ words
  | invalidTrialDays product value =>
    "product " ++ product ++ " has invalid free_trial_days: " ++ value

namespace Product

/-- The record under a metadata key, as JSON; the fallback where the key is absent. -/
def record {α : Type} (p : Product) (key : String) (fallback : α)
    (read : Json.Site → Option α) : Except ProductFault α :=
  match p.metadata.get? key with
  | none => .ok fallback
  | some text =>
    match (Json.Site.ofBytes? (Text.Utf8.bytes text)).bind read with
    | some a => .ok a
    | none => .error (.unreadable p.id key)

/-- Days of a free trial: a whole number, blanks around it ignored, that is not negative. -/
def trialDays? (text : String) : Option Int :=
  (Text.Numeral.int64? (Text.trimChars text.toList)).filter (0 ≤ ·)

def freeTrialDays (p : Product) (fallback : Int) : Except ProductFault Int :=
  match p.metadata.get? freeTrialDaysKey with
  | none => .ok fallback
  | some text =>
    match trialDays? text with
    | some days => .ok days
    | none => .error (.invalidTrialDays p.id text)

end Product

/-- The first amount among the active prices of an interval. -/
def recurringAmount (prices : List Price) (period : BillingPeriod) : Option Int :=
  (prices.filter fun p => p.active && p.interval == some period).findSome? (·.unitAmount)

/-- The plan sold under a product, brought up to date. Identity and the default flag stay;
metadata that is absent keeps what is stored; prices always follow the provider. -/
def Plan.refresh (existing : Plan) (product : Product) (prices : List Price) :
    Except ProductFault Plan := do
  let limits ← product.record limitsKey existing.limits Encoding.limits?
  let features ← product.record featuresKey existing.features Encoding.features?
  let freeTrialDays ← product.freeTrialDays existing.freeTrialDays
  let name := if Text.isAllBlank product.name then existing.name else product.name
  pure {
    id := existing.id
    name
    productId := existing.productId
    monthlyPriceCents := recurringAmount prices .monthly
    yearlyPriceCents := recurringAmount prices .annual
    isDefault := existing.isDefault
    freeTrialDays
    limits
    features }

/-- The refreshed plan, a fault being one of the provider's data; with the words of the reader. -/
def planOfProductWith (words : String) (existing : Plan) (product : Product)
    (prices : List Price) : Except BillingError Plan :=
  (existing.refresh product prices).mapError fun fault => .invalidProviderData (fault.message words)

/-- The refreshed plan. The text of a fault ends where a reader would have its say. -/
def planOfProduct (existing : Plan) (product : Product) (prices : List Price) :
    Except BillingError Plan :=
  planOfProductWith "" existing product prices

end TenantBilling
