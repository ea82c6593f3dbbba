import TenantBilling.Event.Parser
import TenantBilling.Proofs.Dates
import TenantBilling.Proofs.History

/-! Which payloads are events. A valid event is described without the reader, by what each of its
fields has to do with the records in a payload. The reader gives exactly the events that are so
described, and refuses every other payload as an invalid event and for no other reason. -/

namespace TenantBilling.Event

open Calendar

/-! ## Valid events -/

/-- A number of seconds is given and stands for a moment, which is written in UTC. -/
structure Dates (seconds : Option Int) (t : DateTime) : Prop where
  given : seconds = some t.unix
  whole : t.nano = 0
  utc : t.offset = Offset.utc

/-- Metadata tell the address of an organization, up to blanks around it. -/
structure Names (metadata : Table String String) (address : String) : Prop where
  named : ∃ text, metadata.get? "org_address" = some text ∧ Text.trim text = address
  nonempty : address ≠ ""

/-- A customer has details only where its record is given; metadata missing there are empty. -/
inductive Refers : Payload.Expandable Payload.Customer → CustomerRef → Prop
  | id (id : String) : Refers (.id id) ⟨id, none, none⟩
  | full {c : Payload.Customer} {metadata : Table String String} (h : c.metadata = some metadata) :
    Refers (.record c) ⟨c.id, c.email, some metadata⟩
  | bare {c : Payload.Customer} (h : c.metadata = none) : Refers (.record c) ⟨c.id, c.email, some ∅⟩

inductive Sells : Payload.Expandable Payload.Product → String → Prop
  | id (id : String) : Sells (.id id) id
  | record (p : Payload.Product) : Sells (.record p) p.id

/-- The intervals that recur once in a period. -/
def intervals : BillingPeriod → List String
  | .monthly => ["month", "monthly"]
  | .annual => ["year", "yearly", "annual"]

/-- What an event takes from the first item of a subscription: its price, and each bound of the
period that the subscription itself does not give. -/
structure IsItem (s : Payload.Subscription) (item : Payload.Item) (e : SubscriptionEvent) :
    Prop where
  price : ∃ price recurring, item.price = some price ∧ price.recurring = some recurring ∧
    Sells price.product e.productId ∧ recurring.interval ∈ intervals e.period
  start : Dates (s.periodStart.or item.periodStart) e.periodStart
  stop : Dates (s.periodEnd.or item.periodEnd) e.periodEnd

structure IsSubscription (s : Payload.Subscription) (e : SubscriptionEvent) : Prop where
  id : e.subscriptionId = s.id
  status : s.status = e.status.name
  customer : Refers s.customer e.customer
  item : ∃ item rest, s.items = item :: rest ∧ IsItem s item e
  address : ∃ metadata, s.metadata = some metadata ∧ Names metadata e.address

/-- Metadata stand under an invoice's own subscription, or under its parent's where its own has
none. -/
inductive Carries (i : Payload.Invoice) (metadata : Table String String) : Prop
  | own (d : Payload.Details) (h : i.details = some d) (given : d.metadata = some metadata)
  | parent (p : Payload.Parent) (d : Payload.Details)
    (absent : ∀ own, i.details = some own → own.metadata = none) (h : i.parent = some p)
    (hd : p.details = some d) (given : d.metadata = some metadata)

structure IsInvoice (i : Payload.Invoice) (e : InvoiceEvent) : Prop where
  id : e.invoiceId = i.id
  effective : Dates i.effectiveAt e.effectiveAt
  address : ∃ metadata, Carries i metadata ∧ Names metadata e.address

def subscriptionTypes : List String :=
  ["customer.subscription.created", "customer.subscription.updated",
    "customer.subscription.deleted"]

def invoiceType : String := "invoice.payment_succeeded"

def productType : String := "product.updated"

/-- The types that are acted on. -/
def handledTypes : List String := subscriptionTypes ++ [invoiceType, productType]

/-- What an object tells under a type. -/
inductive Told (type : String) (object : Json.Value) : EventKind → Prop
  | subscription {s : Payload.Subscription} {e : SubscriptionEvent} (h : type ∈ subscriptionTypes)
    (decoded : Payload.subscription? object = some s) (valid : IsSubscription s e) :
    Told type object (.subscription e)
  | invoice {i : Payload.Invoice} {e : InvoiceEvent} (h : type = invoiceType)
    (decoded : Payload.invoice? object = some i) (valid : IsInvoice i e) :
    Told type object (.invoice e)
  | product {p : Payload.Product} (h : type = productType)
    (decoded : Payload.product? object = some p) : Told type object (.product ⟨p.id⟩)
  | unhandled (h : type ∉ handledTypes) : Told type object .unhandled

structure Valid (envelope : Payload.Envelope) (event : Event) : Prop where
  id : event.id = envelope.id
  type : event.type = envelope.type
  created : event.created = envelope.created
  kind : Told envelope.type envelope.object event.kind

/-- The envelope that the bytes of a payload hold. -/
def envelope? (payload : List UInt8) : Option Payload.Envelope :=
  (Json.Site.ofBytes? payload).bind Payload.envelope?

/-! ## Complete records -/

/-- A number of seconds is given that stands for a moment of the calendar. -/
def IsMoment (seconds : Option Int) : Prop :=
  ∃ n, seconds = some n ∧ -377705116800 ≤ n ∧ n ≤ 253402300799

/-- Metadata hold an address that is more than blanks. -/
def IsTied (metadata : Table String String) : Prop :=
  ∃ text, metadata.get? "org_address" = some text ∧ Text.isAllBlank text = false

/-- A subscription that has all an event needs. -/
structure SubscriptionComplete (s : Payload.Subscription) : Prop where
  status : s.status ∈ ["active", "trialing", "past_due", "canceled", "unpaid", "incomplete",
    "incomplete_expired", "paused"]
  item : ∃ item rest price recurring, s.items = item :: rest ∧ item.price = some price ∧
    price.recurring = some recurring ∧
    recurring.interval ∈ ["month", "monthly", "year", "yearly", "annual"] ∧
    IsMoment (s.periodStart.or item.periodStart) ∧ IsMoment (s.periodEnd.or item.periodEnd)
  address : ∃ metadata, s.metadata = some metadata ∧ IsTied metadata

structure InvoiceComplete (i : Payload.Invoice) : Prop where
  effective : IsMoment i.effectiveAt
  address : ∃ metadata, Carries i metadata ∧ IsTied metadata

section Reading
variable {α : Type} {words field source : String} {fault : EventFault} {seconds : Option Int}
  {t : DateTime} {s : Payload.Subscription} {e : SubscriptionEvent} {i : Payload.Invoice}
  {metadata : Option (Table String String)} {payload : List UInt8} {type : String}
  {object : Json.Value} {kind : EventKind} {event : Event}

/-! ## Reading a field -/

theorem orFault_eq_ok_iff {x : Option α} {a : α} : orFault x fault = .ok a ↔ x = some a := by
  cases x <;> simp [orFault]

theorem moment_eq_ok_iff : moment seconds field = .ok t ↔ Dates seconds t := by
  simp only [moment, bind_eq_ok_iff, orFault_eq_ok_iff, DateTime.ofUnix?_eq_some_iff]
  constructor
  · rintro ⟨n, given, rfl, whole, utc⟩
    exact ⟨given, whole, utc⟩
  · rintro ⟨given, whole, utc⟩
    exact ⟨t.unix, given, rfl, whole, utc⟩

theorem address_eq_ok_iff {text : String} : address metadata source = .ok text ↔
    ∃ map, metadata = some map ∧ Names map text := by
  simp only [address, orFault_eq_ok_iff, Option.filter_eq_some_iff, Option.map_eq_some_iff,
    Option.bind_eq_some_iff, decide_eq_true_eq]
  constructor
  · rintro ⟨⟨raw, ⟨map, hmap, hraw⟩, htext⟩, nonempty⟩
    exact ⟨map, hmap, ⟨raw, hraw, htext⟩, nonempty⟩
  · rintro ⟨map, hmap, ⟨raw, hraw, htext⟩, nonempty⟩
    exact ⟨⟨raw, ⟨map, hmap, hraw⟩, htext⟩, nonempty⟩

theorem customer_eq_iff {c : Payload.Expandable Payload.Customer} {ref : CustomerRef} :
    customer c = ref ↔ Refers c ref := by
  constructor
  · rintro rfl
    cases c with
    | id id => exact .id id
    | record c =>
      cases hmetadata : c.metadata with
      | none =>
        rw [customer, hmetadata]
        exact .bare hmetadata
      | some metadata =>
        rw [customer, hmetadata]
        exact .full hmetadata
  · rintro (_ | hmetadata | hmetadata)
    · rfl
    · simp [customer, hmetadata]
    · simp [customer, hmetadata]

theorem productId_eq_iff {p : Payload.Expandable Payload.Product} {id : String} :
    productId p = id ↔ Sells p id := by
  constructor
  · rintro rfl
    cases p with
    | id id => exact .id id
    | record p => exact .record p
  · rintro (_ | _) <;> rfl

theorem status_eq_some_iff {text : String} {status : SubscriptionStatus} :
    SubscriptionStatus.ofText? text = some status ↔ text = status.name := by
  constructor
  · intro h
    have found := List.find?_some h
    exact (beq_iff_eq.mp found).symm
  · rintro rfl
    exact SubscriptionStatus.ofText?_name status

theorem period_eq_some_iff {text : String} {period : BillingPeriod} :
    BillingPeriod.ofText? text = some period ↔ text ∈ intervals period := by
  constructor
  · intro h
    unfold BillingPeriod.ofText? at h
    split at h
    · rename_i monthly
      cases h
      rcases monthly with rfl | rfl <;> decide
    · split at h
      · rename_i annual
        cases h
        rcases annual with rfl | rfl | rfl <;> decide
      · cases h
  · intro h
    cases period with
    | monthly =>
      simp only [intervals, List.mem_cons, List.not_mem_nil, or_false] at h
      rcases h with rfl | rfl <;> decide
    | annual =>
      simp only [intervals, List.mem_cons, List.not_mem_nil, or_false] at h
      rcases h with rfl | rfl | rfl <;> decide

theorem carries_iff {map : Table String String} :
    invoiceMetadata i = some map ↔ Carries i map := by
  unfold invoiceMetadata
  rw [Option.or_eq_some_iff]
  constructor
  · rintro (own | ⟨absent, given⟩)
    · obtain ⟨d, hd, given⟩ := Option.bind_eq_some_iff.mp own
      exact .own d hd given
    · obtain ⟨d, hd, given⟩ := Option.bind_eq_some_iff.mp given
      obtain ⟨p, hp, hd⟩ := Option.bind_eq_some_iff.mp hd
      refine .parent p d (fun own hown => ?_) hp hd given
      rw [hown] at absent
      exact absent
  · rintro (⟨d, hd, given⟩ | ⟨p, d, absent, hp, hd, given⟩)
    · exact Or.inl (Option.bind_eq_some_iff.mpr ⟨d, hd, given⟩)
    · refine Or.inr ⟨?_, ?_⟩
      · cases hown : i.details with
        | none => rfl
        | some own => exact absent own hown
      · rw [hp, Option.bind_some, hd]
        exact given

/-! ## Reading a record -/

theorem ofSubscription_eq_ok_iff : ofSubscription s = .ok e ↔ IsSubscription s e := by
  simp only [ofSubscription, bind_eq_ok_iff, orFault_eq_ok_iff, status_eq_some_iff,
    period_eq_some_iff, moment_eq_ok_iff, address_eq_ok_iff]
  constructor
  · rintro ⟨status, hstatus, item, hitem, price, hprice, recurring, hrecurring, period, hperiod,
      start, hstart, stop, hstop, address, haddress, h⟩
    cases h
    obtain ⟨rest, hrest⟩ := List.head?_eq_some_iff.mp hitem
    exact {
      id := rfl
      status := hstatus
      customer := customer_eq_iff.mp rfl
      item := ⟨item, rest, hrest,
        ⟨price, recurring, hprice, hrecurring, productId_eq_iff.mp rfl, hperiod⟩, hstart, hstop⟩
      address := haddress }
  · rintro ⟨hid, hstatus, hcustomer, ⟨item, rest, hrest, hitem⟩, haddress⟩
    obtain ⟨⟨price, recurring, hprice, hrecurring, hproduct, hperiod⟩, hstart, hstop⟩ := hitem
    refine ⟨e.status, hstatus, item, List.head?_eq_some_iff.mpr ⟨rest, hrest⟩, price, hprice,
      recurring, hrecurring, e.period, hperiod, e.periodStart, hstart, e.periodEnd, hstop,
      e.address, haddress, ?_⟩
    rw [← hid, customer_eq_iff.mpr hcustomer, productId_eq_iff.mpr hproduct]
    rfl

theorem ofInvoice_eq_ok_iff {e : InvoiceEvent} : ofInvoice i = .ok e ↔ IsInvoice i e := by
  simp only [ofInvoice, bind_eq_ok_iff, moment_eq_ok_iff, address_eq_ok_iff, carries_iff]
  constructor
  · rintro ⟨effective, heffective, address, haddress, h⟩
    cases h
    exact ⟨rfl, heffective, haddress⟩
  · rintro ⟨hid, heffective, haddress⟩
    refine ⟨e.effectiveAt, heffective, e.address, haddress, ?_⟩
    rw [← hid]
    rfl

/-! ## Reading an event -/

theorem isSubscriptionType_iff : isSubscriptionType type = true ↔ type ∈ subscriptionTypes := by
  simp [isSubscriptionType, subscriptionTypes, or_assoc]

theorem mem_handledTypes_iff : type ∈ handledTypes ↔
    isSubscriptionType type = true ∨ isInvoiceType type = true ∨ isProductType type = true := by
  rw [isSubscriptionType_iff]
  simp [handledTypes, isInvoiceType, isProductType, invoiceType, productType]

theorem kindOf_eq_ok_iff : kindOf type object = .ok kind ↔ Told type object kind := by
  unfold kindOf
  constructor
  · intro h
    split at h
    · rename_i subscribes
      simp only [bind_eq_ok_iff, orFault_eq_ok_iff, ofSubscription_eq_ok_iff] at h
      obtain ⟨s, decoded, e, valid, h⟩ := h
      cases h
      exact .subscription (isSubscriptionType_iff.mp subscribes) decoded valid
    · split at h
      · rename_i pays
        simp only [bind_eq_ok_iff, orFault_eq_ok_iff, ofInvoice_eq_ok_iff] at h
        obtain ⟨i, decoded, e, valid, h⟩ := h
        cases h
        exact .invoice (beq_iff_eq.mp pays) decoded valid
      · split at h
        · rename_i sells
          simp only [bind_eq_ok_iff, orFault_eq_ok_iff] at h
          obtain ⟨p, decoded, h⟩ := h
          cases h
          exact .product (beq_iff_eq.mp sells) decoded
        · rename_i subscribes pays sells
          cases h
          refine .unhandled fun h => ?_
          obtain h | h | h := mem_handledTypes_iff.mp h
          · exact subscribes h
          · exact pays h
          · exact sells h
  · rintro (⟨h, decoded, valid⟩ | ⟨rfl, decoded, valid⟩ | ⟨rfl, decoded⟩ | h)
    · rw [if_pos (isSubscriptionType_iff.mpr h)]
      simp only [bind_eq_ok_iff, orFault_eq_ok_iff, ofSubscription_eq_ok_iff]
      exact ⟨_, decoded, _, valid, rfl⟩
    · rw [if_neg (by decide), if_pos (by decide)]
      simp only [bind_eq_ok_iff, orFault_eq_ok_iff, ofInvoice_eq_ok_iff]
      exact ⟨_, decoded, _, valid, rfl⟩
    · rw [if_neg (by decide), if_neg (by decide), if_pos (by decide)]
      simp only [bind_eq_ok_iff, orFault_eq_ok_iff]
      exact ⟨_, decoded, rfl⟩
    · simp only [mem_handledTypes_iff, not_or] at h
      rw [if_neg h.1, if_neg h.2.1, if_neg h.2.2]

theorem ofPayload_eq_ok_iff : ofPayload payload = .ok event ↔
    ∃ envelope, envelope? payload = some envelope ∧ Valid envelope event := by
  simp only [ofPayload, bind_eq_ok_iff, orFault_eq_ok_iff, kindOf_eq_ok_iff]
  constructor
  · rintro ⟨envelope, decoded, kind, told, h⟩
    cases h
    exact ⟨envelope, decoded, rfl, rfl, rfl, told⟩
  · rintro ⟨envelope, decoded, hid, htype, hcreated, told⟩
    refine ⟨envelope, decoded, event.kind, told, ?_⟩
    rw [← hid, ← htype, ← hcreated]
    rfl

theorem parseWith_eq_ok_iff : parseWith words payload = .ok event ↔
    ∃ envelope, envelope? payload = some envelope ∧ Valid envelope event :=
  mapError_eq_ok_iff.trans ofPayload_eq_ok_iff

theorem parseWith_cases (words : String) (payload : List UInt8) :
    (∃ event, parseWith words payload = .ok event) ∨
      ∃ detail, parseWith words payload = .error (.invalidEvent detail) := by
  rw [parseWith]
  cases ofPayload payload with
  | ok event => exact Or.inl ⟨event, rfl⟩
  | error fault => exact Or.inr ⟨fault.message words, rfl⟩

/-! ## What makes a record complete -/

theorem exists_dates_iff : (∃ t, Dates seconds t) ↔ IsMoment seconds := by
  unfold IsMoment
  simp only [← DateTime.exists_ofUnix?_iff, DateTime.ofUnix?_eq_some_iff]
  constructor
  · rintro ⟨t, given, whole, utc⟩
    exact ⟨t.unix, given, t, rfl, whole, utc⟩
  · rintro ⟨n, given, t, rfl, whole, utc⟩
    exact ⟨t, given, whole, utc⟩

theorem exists_names_iff {map : Table String String} :
    (∃ address, Names map address) ↔ IsTied map := by
  have blank (text : String) : Text.trim text = "" ↔ Text.isAllBlank text = true := by
    rw [← String.toList_inj, Text.trim, String.toList_ofList, Text.isAllBlank]
    exact Text.trimChars_eq_nil_iff _
  constructor
  · rintro ⟨address, ⟨text, htext, rfl⟩, nonempty⟩
    exact ⟨text, htext, Bool.eq_false_iff.mpr fun h => nonempty ((blank text).mpr h)⟩
  · rintro ⟨text, htext, hblank⟩
    exact ⟨_, ⟨text, htext, rfl⟩, fun h => Bool.eq_false_iff.mp hblank ((blank text).mp h)⟩

theorem exists_status_iff {text : String} : (∃ status : SubscriptionStatus, text = status.name) ↔
    text ∈ ["active", "trialing", "past_due", "canceled", "unpaid", "incomplete",
      "incomplete_expired", "paused"] := by
  constructor
  · rintro ⟨status, rfl⟩
    cases status <;> decide
  · intro h
    obtain ⟨status, -, name⟩ : ∃ status ∈ SubscriptionStatus.all, status.name = text :=
      List.mem_map.mp h
    exact ⟨status, name.symm⟩

theorem exists_period_iff {text : String} : (∃ period, text ∈ intervals period) ↔
    text ∈ ["month", "monthly", "year", "yearly", "annual"] := by
  constructor
  · rintro ⟨_ | _, h⟩
    · exact List.mem_append_left (intervals .annual) h
    · exact List.mem_append_right (intervals .monthly) h
  · intro h
    obtain h | h := List.mem_append.mp (show text ∈ intervals .monthly ++ intervals .annual from h)
    · exact ⟨.monthly, h⟩
    · exact ⟨.annual, h⟩

theorem exists_subscription_iff : (∃ e, IsSubscription s e) ↔ SubscriptionComplete s := by
  constructor
  · rintro ⟨e, h⟩
    obtain ⟨item, rest, hrest, ⟨price, recurring, hprice, hrecurring, -, hperiod⟩, start, stop⟩ :=
      h.item
    obtain ⟨metadata, hmetadata, names⟩ := h.address
    exact {
      status := exists_status_iff.mp ⟨_, h.status⟩
      item := ⟨item, rest, price, recurring, hrest, hprice, hrecurring,
        exists_period_iff.mp ⟨_, hperiod⟩, exists_dates_iff.mp ⟨_, start⟩,
        exists_dates_iff.mp ⟨_, stop⟩⟩
      address := ⟨metadata, hmetadata, exists_names_iff.mp ⟨_, names⟩⟩ }
  · rintro ⟨hstatus, ⟨item, rest, price, recurring, hrest, hprice, hrecurring, hinterval, hstart,
      hstop⟩, metadata, hmetadata, tied⟩
    obtain ⟨status, hstatus⟩ := exists_status_iff.mpr hstatus
    obtain ⟨period, hperiod⟩ := exists_period_iff.mpr hinterval
    obtain ⟨start, hstart⟩ := exists_dates_iff.mpr hstart
    obtain ⟨stop, hstop⟩ := exists_dates_iff.mpr hstop
    obtain ⟨address, names⟩ := exists_names_iff.mpr tied
    exact ⟨⟨s.id, customer s.customer, status, productId price.product, period, start, stop,
      address⟩, rfl, hstatus, customer_eq_iff.mp rfl,
      ⟨item, rest, hrest, ⟨price, recurring, hprice, hrecurring, productId_eq_iff.mp rfl, hperiod⟩,
        hstart, hstop⟩, metadata, hmetadata, names⟩

theorem exists_invoice_iff : (∃ e, IsInvoice i e) ↔ InvoiceComplete i := by
  constructor
  · rintro ⟨e, h⟩
    obtain ⟨metadata, carries, names⟩ := h.address
    exact ⟨exists_dates_iff.mp ⟨_, h.effective⟩, metadata, carries, exists_names_iff.mp ⟨_, names⟩⟩
  · rintro ⟨effective, metadata, carries, tied⟩
    obtain ⟨t, dates⟩ := exists_dates_iff.mpr effective
    obtain ⟨address, names⟩ := exists_names_iff.mpr tied
    exact ⟨⟨i.id, address, t⟩, rfl, dates, metadata, carries, names⟩

/-- A payload gives an event exactly when what its envelope says under its type does. -/
theorem exists_event_iff {envelope : Payload.Envelope}
    (decoded : envelope? payload = some envelope) :
    (∃ event, parseWith words payload = .ok event) ↔
      ∃ kind, Told envelope.type envelope.object kind := by
  simp only [parseWith_eq_ok_iff]
  constructor
  · rintro ⟨event, envelope', decoded', valid⟩
    obtain rfl := Option.some.inj (decoded.symm.trans decoded')
    exact ⟨_, valid.kind⟩
  · rintro ⟨kind, told⟩
    exact ⟨⟨envelope.id, envelope.type, envelope.created, kind⟩, envelope, decoded, rfl, rfl, rfl,
      told⟩

theorem exists_told_subscription_iff (h : type ∈ subscriptionTypes)
    (decoded : Payload.subscription? object = some s) :
    (∃ kind, Told type object kind) ↔ ∃ e, IsSubscription s e := by
  constructor
  · rintro ⟨kind, told⟩
    cases told with
    | subscription _ decoded' valid =>
      obtain rfl := Option.some.inj (decoded.symm.trans decoded')
      exact ⟨_, valid⟩
    | invoice h' => exact absurd (h' ▸ h) (by decide)
    | product h' => exact absurd (h' ▸ h) (by decide)
    | unhandled h' => exact absurd (List.mem_append_left _ h) h'
  · rintro ⟨e, valid⟩
    exact ⟨_, .subscription h decoded valid⟩

theorem exists_told_invoice_iff (decoded : Payload.invoice? object = some i) :
    (∃ kind, Told invoiceType object kind) ↔ ∃ e, IsInvoice i e := by
  constructor
  · rintro ⟨kind, told⟩
    cases told with
    | subscription h => exact absurd h (by decide)
    | invoice _ decoded' valid =>
      obtain rfl := Option.some.inj (decoded.symm.trans decoded')
      exact ⟨_, valid⟩
    | product h => exact absurd h (by decide)
    | unhandled h => exact absurd (by decide) h
  · rintro ⟨e, valid⟩
    exact ⟨_, .invoice rfl decoded valid⟩

/-- Every payload is read as the event it is a description of, or refused as an invalid event when
it describes none. Of a payload whose records can be read, a type that is not acted on is always
an event, a subscription or an invoice is one exactly when its record is complete, and a product
always is. -/
theorem parse_iff_valid (words : String) (payload : List UInt8) :
    ((∃ event, parseWith words payload = .ok event) ∨
        ∃ detail, parseWith words payload = .error (.invalidEvent detail)) ∧
      (∀ event, parseWith words payload = .ok event ↔
        ∃ envelope, envelope? payload = some envelope ∧ Valid envelope event) ∧
      ∀ envelope, envelope? payload = some envelope →
        (envelope.type ∉ handledTypes → parseWith words payload =
          .ok ⟨envelope.id, envelope.type, envelope.created, .unhandled⟩) ∧
        (∀ s, envelope.type ∈ subscriptionTypes →
          Payload.subscription? envelope.object = some s →
          ((∃ event, parseWith words payload = .ok event) ↔ SubscriptionComplete s)) ∧
        (∀ i, envelope.type = invoiceType → Payload.invoice? envelope.object = some i →
          ((∃ event, parseWith words payload = .ok event) ↔ InvoiceComplete i)) ∧
        ∀ p, envelope.type = productType → Payload.product? envelope.object = some p →
          parseWith words payload =
            .ok ⟨envelope.id, envelope.type, envelope.created, .product ⟨p.id⟩⟩ := by
  refine ⟨parseWith_cases words payload, fun event => parseWith_eq_ok_iff,
    fun envelope decoded => ?_⟩
  rw [exists_event_iff decoded]
  refine ⟨fun h => ?_, fun s h record => ?_, fun i h record => ?_, fun p h record => ?_⟩
  · exact parseWith_eq_ok_iff.mpr ⟨envelope, decoded, rfl, rfl, rfl, .unhandled h⟩
  · rw [exists_told_subscription_iff h record, exists_subscription_iff]
  · rw [h, exists_told_invoice_iff record, exists_invoice_iff]
  · exact parseWith_eq_ok_iff.mpr ⟨envelope, decoded, rfl, rfl, rfl, .product h record⟩

end Reading

/-- A subscription whose records are arrays of their fields: its customer's record has no metadata,
its address is among blanks, and only its item has the end of the period. -/
def expandedPayload : List UInt8 := Text.Utf8.bytes <|
  "[\"evt_1\",\"customer.subscription.updated\",0,[[\"sub_1\",\"canceled\",[\"cus_9\",\"a@b\"]," ++
    "\x7b\"org_address\":\" 0xa1 \"\x7d,1704067200,null," ++
    "[[[[\"prod_a\",[\"month\"]],0,1735689600]]]]]]"

theorem expanded_payload_valid : ∃ envelope, envelope? expandedPayload = some envelope ∧
    Valid envelope ⟨"evt_1", "customer.subscription.updated", 0, .subscription
      ⟨"sub_1", ⟨"cus_9", some "a@b", some ∅⟩, .canceled, "prod_a", .monthly,
        newYear 2024 (by decide), newYear 2025 (by decide), "0xa1"⟩⟩ :=
  ((parse_iff_valid "" expandedPayload).2.1 _).mp (by decide +kernel)

end TenantBilling.Event
