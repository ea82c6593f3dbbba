import TenantBilling.Json.Record

/-! The records of a provider payload, before anything is asked of their contents. -/

namespace TenantBilling.Payload

open Json

/-- A reference that is an id, or the record itself. -/
inductive Expandable (α : Type) where
  | id (id : String)
  | record (r : α)

def expandable? {α : Type} (read : Value → Option α) : Value → Option (Expandable α)
  | .string id => some (.id id)
  | v => (read v).map .record

structure Customer where
  id : String
  email : Option String
  metadata : Option (Table String String)

def customer? (v : Value) : Option Customer := do
  let f ← v.slots? ["id", "email", "metadata"]
  pure ⟨← f.required "id" Value.text?,
    ← f.defaulted "email" none (Value.optional Value.text?),
    ← f.defaulted "metadata" none (Value.optional Value.textMap?)⟩

structure Product where
  id : String

def product? (v : Value) : Option Product := do
  let f ← v.slots? ["id"]
  pure ⟨← f.required "id" Value.text?⟩

structure Recurring where
  interval : String

def recurring? (v : Value) : Option Recurring := do
  let f ← v.slots? ["interval"]
  pure ⟨← f.required "interval" Value.text?⟩

structure Price where
  product : Expandable Product
  recurring : Option Recurring

def price? (v : Value) : Option Price := do
  let f ← v.slots? ["product", "recurring"]
  pure ⟨← f.required "product" (expandable? product?),
    ← f.defaulted "recurring" none (Value.optional recurring?)⟩

structure Item where
  price : Option Price
  periodStart : Option Int
  periodEnd : Option Int

def item? (v : Value) : Option Item := do
  let f ← v.slots? ["price", "current_period_start", "current_period_end"]
  pure ⟨← f.defaulted "price" none (Value.optional price?),
    ← f.defaulted "current_period_start" none (Value.optional Value.int64?),
    ← f.defaulted "current_period_end" none (Value.optional Value.int64?)⟩

def items? (v : Value) : Option (List Item) := do
  let f ← v.slots? ["data"]
  f.required "data" (Value.list? item?)

structure Subscription where
  id : String
  status : String
  customer : Expandable Customer
  metadata : Option (Table String String)
  periodStart : Option Int
  periodEnd : Option Int
  items : List Item

def subscription? (v : Value) : Option Subscription := do
  let f ← v.slots? ["id", "status", "customer", "metadata", "current_period_start",
    "current_period_end", "items"]
  let id ← f.required "id" Value.text?
  let status ← f.required "status" Value.text?
  let customer ← f.required "customer" (expandable? customer?)
  let metadata ← f.defaulted "metadata" none (Value.optional Value.textMap?)
  let periodStart ← f.defaulted "current_period_start" none (Value.optional Value.int64?)
  let periodEnd ← f.defaulted "current_period_end" none (Value.optional Value.int64?)
  let items ← f.required "items" items?
  pure { id, status, customer, metadata, periodStart, periodEnd, items }

structure Details where
  metadata : Option (Table String String)

def details? (v : Value) : Option Details := do
  let f ← v.slots? ["metadata"]
  pure ⟨← f.defaulted "metadata" none (Value.optional Value.textMap?)⟩

structure Parent where
  details : Option Details

def parent? (v : Value) : Option Parent := do
  let f ← v.slots? ["subscription_details"]
  pure ⟨← f.defaulted "subscription_details" none (Value.optional details?)⟩

structure Invoice where
  id : String
  effectiveAt : Option Int
  details : Option Details
  parent : Option Parent

def invoice? (v : Value) : Option Invoice := do
  let f ← v.slots? ["id", "effective_at", "subscription_details", "parent"]
  pure ⟨← f.required "id" Value.text?,
    ← f.defaulted "effective_at" none (Value.optional Value.int64?),
    ← f.defaulted "subscription_details" none (Value.optional details?),
    ← f.defaulted "parent" none (Value.optional parent?)⟩

/-- What every payload has in common; the object is read once its type is known. -/
structure Envelope where
  id : String
  type : String
  created : Int
  object : Value

def data? (s : Site) : Option Value := do
  let f ← s.slots? ["object"]
  f.required "object" Site.value?

def envelope? (s : Site) : Option Envelope := do
  let f ← s.slots? ["id", "type", "created", "data"]
  pure ⟨← f.required "id" Site.text?, ← f.required "type" Site.text?,
    ← f.defaulted "created" 0 Site.int64?, ← f.required "data" data?⟩

end TenantBilling.Payload
