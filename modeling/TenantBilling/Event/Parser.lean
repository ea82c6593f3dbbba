import TenantBilling.Error
import TenantBilling.Event.Basic
import TenantBilling.Event.Payload
import TenantBilling.Text.Blank

/-! Events read from the bytes of a payload. Whatever keeps a payload from being an event is
a fault, found in the order in which the checks are written here. -/

namespace TenantBilling

open Calendar

/-- The metadata key that ties a provider's object to an organization. -/
def addressKey : String := "org_address"

/-- What is wrong with a payload. -/
inductive EventFault where
  | malformedPayload
  | malformedObject (what : String)
  | unknownStatus (status : String)
  | noItems
  | noPrice
  | notRecurring
  | unsupportedInterval (interval : String)
  | missing (field : String)
  | outOfRange (field : String) (seconds : Int)
  | noAddress (source : String)
deriving DecidableEq

/-- The text of a fault; what the reader says of an object that it cannot read comes last. -/
def EventFault.message (words : String) : EventFault → String
  | malformedPayload => "malformed event payload"
  | malformedObject what => "malformed " ++ what ++ " object: " ++ words
  | unknownStatus status => "unknown subscription status: " ++ status
  | noItems => "subscription has no items"
  | noPrice => "subscription item has no price"
  | notRecurring => "price is not recurring"
  | unsupportedInterval interval => "unsupported billing interval: " ++ interval
  | missing field => "missing " ++ field
  | outOfRange field seconds => field ++ " out of range: " ++ Text.decimal seconds
  | noAddress source => addressKey ++ " not found in " ++ source ++ " metadata"

namespace Event

/-- The answer of a step that may give nothing, or the fault that stands for nothing. -/
def orFault {α : Type} (a : Option α) (fault : EventFault) : Except EventFault α :=
  match a with
  | some a => .ok a
  | none => .error fault

def moment (seconds : Option Int) (field : String) : Except EventFault DateTime := do
  let seconds ← orFault seconds (.missing field)
  orFault (DateTime.ofUnix? seconds) (.outOfRange field seconds)

def address (metadata : Option (Table String String)) (source : String) :
    Except EventFault String :=
  orFault (((metadata.bind (·.get? addressKey)).map Text.trim).filter (· ≠ "")) (.noAddress source)

/-- A customer given by its record has metadata, if only an empty map. -/
def customer : Payload.Expandable Payload.Customer → CustomerRef
  | .id id => ⟨id, none, none⟩
  | .record c => ⟨c.id, c.email, some (c.metadata.getD ∅)⟩

def productId : Payload.Expandable Payload.Product → String
  | .id id => id
  | .record p => p.id

/-- The period's bounds stand on the subscription, or else on its first item. -/
def ofSubscription (s : Payload.Subscription) : Except EventFault SubscriptionEvent := do
  let status ← orFault (SubscriptionStatus.ofText? s.status) (.unknownStatus s.status)
  let item ← orFault s.items.head? .noItems
  let price ← orFault item.price .noPrice
  let recurring ← orFault price.recurring .notRecurring
  let period ← orFault (BillingPeriod.ofText? recurring.interval)
    (.unsupportedInterval recurring.interval)
  let periodStart ← moment (s.periodStart.or item.periodStart) "current_period_start"
  let periodEnd ← moment (s.periodEnd.or item.periodEnd) "current_period_end"
  let address ← address s.metadata "subscription"
  pure {
    subscriptionId := s.id
    customer := customer s.customer
    status
    productId := productId price.product
    period
    periodStart
    periodEnd
    address }

/-- The metadata of an invoice's subscription, or else of its parent's. -/
def invoiceMetadata (i : Payload.Invoice) : Option (Table String String) :=
  (i.details.bind (·.metadata)).or ((i.parent.bind (·.details)).bind (·.metadata))

def ofInvoice (i : Payload.Invoice) : Except EventFault InvoiceEvent := do
  let effectiveAt ← moment i.effectiveAt "effective_at"
  let address ← address (invoiceMetadata i) "invoice subscription_details"
  pure { invoiceId := i.id, address, effectiveAt }

def isSubscriptionType (type : String) : Bool :=
  type == "customer.subscription.created" || type == "customer.subscription.updated" ||
    type == "customer.subscription.deleted"

def isInvoiceType (type : String) : Bool := type == "invoice.payment_succeeded"

def isProductType (type : String) : Bool := type == "product.updated"

def kindOf (type : String) (object : Json.Value) : Except EventFault EventKind :=
  if isSubscriptionType type then do
    let s ← orFault (Payload.subscription? object) (.malformedObject "subscription")
    pure (.subscription (← ofSubscription s))
  else if isInvoiceType type then do
    let i ← orFault (Payload.invoice? object) (.malformedObject "invoice")
    pure (.invoice (← ofInvoice i))
  else if isProductType type then do
    let p ← orFault (Payload.product? object) (.malformedObject "product")
    pure (.product ⟨p.id⟩)
  else .ok .unhandled

def ofPayload (payload : List UInt8) : Except EventFault Event := do
  let e ← orFault ((Json.Site.ofBytes? payload).bind Payload.envelope?) .malformedPayload
  pure ⟨e.id, e.type, e.created, ← kindOf e.type e.object⟩

/-- The event of a payload whose origin is beyond doubt; with the words of the reader. -/
def parseWith (words : String) (payload : List UInt8) : Except BillingError Event :=
  (ofPayload payload).mapError fun fault => .invalidEvent (fault.message words)

/-- The event of a payload. The text of a fault ends where the reader would have its say. -/
def parse (payload : List UInt8) : Except BillingError Event := parseWith "" payload

end Event

end TenantBilling
