import TenantBilling.Catalog
import TenantBilling.Event.Parser
import TenantBilling.Outages
import TenantBilling.Signature

/-! The payment provider: it vouches for webhook deliveries, and keeps customers and a catalog
that can be asked for. Here it is an account held in memory, whose calls can be made to fail. -/

namespace TenantBilling

structure Customer where
  id : String
  email : Option String
  metadata : Table String String
deriving DecidableEq

/-- The operations of a provider. -/
inductive ProviderOp where
  | customer
  | updateMetadata
  | product
  | prices
deriving DecidableEq

namespace ProviderOp

def all : List ProviderOp := [customer, updateMetadata, product, prices]

def name : ProviderOp → String
  | customer => "get_customer"
  | updateMetadata => "update_customer_metadata"
  | product => "get_product"
  | prices => "get_product_prices"

end ProviderOp

/-- A call to a provider with its arguments. -/
inductive ProviderCall where
  | customer (id : String)
  | updateMetadata (id : String) (metadata : Table String String)
  | product (id : String)
  | prices (productId : String)

namespace ProviderCall

def op : ProviderCall → ProviderOp
  | customer _ => .customer
  | updateMetadata _ _ => .updateMetadata
  | product _ => .product
  | prices _ => .prices

/-- The object a call is about. -/
def subject : ProviderCall → String
  | customer id => id
  | updateMetadata id _ => id
  | product id => id
  | prices productId => productId

/-- What a call is answered with when it succeeds. -/
abbrev Answer : ProviderCall → Type
  | customer _ => Customer
  | updateMetadata _ _ => Unit
  | product _ => Product
  | prices _ => List Price

end ProviderCall

/-- The event of a delivery whose signature is in order. -/
def constructEvent (payload : List UInt8) (header secret : String) (tolerance now : Int) :
    Except BillingError Event := do
  Signature.verify payload header secret tolerance now
  Event.parse payload

structure Provider where
  /-- What deliveries are signed with. -/
  secret : String
  tolerance : Int
  customers : Table String Customer
  catalog : Table String (Product × List Price)
  /-- The calls that reached the provider, in their order. -/
  log : List String
  outages : Outages ProviderOp

namespace Provider

def new (secret : String) (tolerance : Int) : Provider := ⟨secret, tolerance, ∅, ∅, [], .none⟩

def verify (p : Provider) (now : Int) (payload : List UInt8) (header : String) :
    Except BillingError Event :=
  constructEvent payload header p.secret p.tolerance now

def addCustomer (p : Provider) (c : Customer) : Provider :=
  { p with customers := p.customers.insert c.id c }

def setProduct (p : Provider) (product : Product) (prices : List Price) : Provider :=
  { p with catalog := p.catalog.insert product.id (product, prices) }

def noCustomer (id : String) : BillingError := .providerRefused ("No such customer: " ++ id)

def noProduct (id : String) : BillingError := .providerRefused ("No such product: " ++ id)

/-- The answer of a provider that can be reached. -/
def reply (p : Provider) : (c : ProviderCall) → Except BillingError c.Answer × Provider
  | .customer id =>
    match p.customers.get? id with
    | some c => (.ok c, p)
    | none => (.error (noCustomer id), p)
  | .updateMetadata id metadata =>
    match p.customers.get? id with
    | some c =>
      (.ok (), { p with
        customers := p.customers.insert id { c with metadata := c.metadata.union metadata } })
    | none => (.error (noCustomer id), p)
  | .product id =>
    match p.catalog.get? id with
    | some (product, _) => (.ok product, p)
    | none => (.error (noProduct id), p)
  | .prices productId =>
    match p.catalog.get? productId with
    | some (_, prices) => (.ok prices, p)
    | none => (.ok [], p)

/-- Answers a call, which is logged whether it fails or not. -/
def answer (p : Provider) (c : ProviderCall) : Except BillingError c.Answer × Provider :=
  let (fails, outages) := p.outages.strike c.op
  let p := { p with log := p.log ++ [c.op.name ++ " " ++ c.subject], outages }
  if fails then (.error (.providerTimeout c.op.name), p) else p.reply c

/-- How a customer id that cannot be one is refused before any call. -/
def refuseCustomerId (id : String) : BillingError :=
  .invalidProviderData ("invalid customer id: " ++ id)

end Provider

end TenantBilling
