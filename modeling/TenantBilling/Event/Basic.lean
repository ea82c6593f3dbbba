import TenantBilling.Account.Basic

/-! Provider events that have been verified and read: one case per family, with only the
fields that billing needs. -/

namespace TenantBilling

open Calendar

/-- The state the provider reports a subscription to be in. -/
inductive SubscriptionStatus where
  | active
  | trialing
  | pastDue
  | canceled
  | unpaid
  | incomplete
  | incompleteExpired
  | paused
deriving DecidableEq, Inhabited

namespace SubscriptionStatus

def all : List SubscriptionStatus :=
  [active, trialing, pastDue, canceled, unpaid, incomplete, incompleteExpired, paused]

def name : SubscriptionStatus → String
  | active => "active"
  | trialing => "trialing"
  | pastDue => "past_due"
  | canceled => "canceled"
  | unpaid => "unpaid"
  | incomplete => "incomplete"
  | incompleteExpired => "incomplete_expired"
  | paused => "paused"

def ofText? (s : String) : Option SubscriptionStatus := all.find? fun status => status.name == s

theorem ofText?_name (status : SubscriptionStatus) : ofText? status.name = some status := by
  cases status <;> decide

end SubscriptionStatus

/-- The customer of a subscription: its id alone, or with the details the event carried. -/
structure CustomerRef where
  id : String
  email : Option String
  metadata : Option (Table String String)
deriving DecidableEq

structure SubscriptionEvent where
  subscriptionId : String
  customer : CustomerRef
  status : SubscriptionStatus
  productId : String
  period : BillingPeriod
  periodStart : DateTime
  periodEnd : DateTime
  address : String
deriving DecidableEq

structure InvoiceEvent where
  invoiceId : String
  address : String
  effectiveAt : DateTime
deriving DecidableEq

structure ProductEvent where
  productId : String
deriving DecidableEq

inductive EventKind where
  | subscription (e : SubscriptionEvent)
  | invoice (e : InvoiceEvent)
  | product (e : ProductEvent)
  /-- A type that is not acted on. -/
  | unhandled
deriving DecidableEq

/-- The organization an event is about; none for one that is about no organization. -/
def EventKind.address? : EventKind → Option String
  | .subscription e => some e.address
  | .invoice e => some e.address
  | .product _ => none
  | .unhandled => none

structure Event where
  id : String
  type : String
  created : Int
  kind : EventKind
deriving DecidableEq

end TenantBilling
