import TenantBilling.Account.Plan
import TenantBilling.Encoding.Moment

/-! The stored records in JSON. -/

namespace TenantBilling.Encoding

open Json

def period? (s : Site) : Option BillingPeriod :=
  s.variant? fun name =>
    if name = "monthly" then some .monthly else if name = "annual" then some .annual else none

def ofPeriod (p : BillingPeriod) : Value := .string p.name

def role? (s : Site) : Option Role :=
  s.variant? fun name =>
    if name = "admin" then some .admin
    else if name = "manager" then some .manager
    else if name = "viewer" then some .viewer
    else none

def ofRole (r : Role) : Value := .string r.name

def counters? (s : Site) : Option Counters := do
  let f ← s.slots? ["processes", "sent_emails", "sent_sms"]
  pure ⟨← f.required "processes" Site.int64?, ← f.required "sent_emails" Site.int64?,
    ← f.required "sent_sms" Site.int64?⟩

def ofCounters (c : Counters) : Value :=
  .object [("processes", .int c.processes), ("sent_emails", .int c.sentEmails),
    ("sent_sms", .int c.sentSms)]

def subscription? (s : Site) : Option Subscription := do
  let f ← s.slots? ["plan_id", "provider_subscription_id", "billing_period", "start_date",
    "renewal_date", "last_payment_date", "active", "email"]
  let planId ← f.required "plan_id" Site.int64?
  let providerId ← f.required "provider_subscription_id" Site.text?
  let period ← f.required "billing_period" period?
  let startDate ← f.nullable "start_date" (Site.optional dateTime?)
  let renewalDate ← f.nullable "renewal_date" (Site.optional dateTime?)
  let lastPaymentDate ← f.nullable "last_payment_date" (Site.optional dateTime?)
  let active ← f.required "active" Site.bool?
  let email ← f.required "email" Site.text?
  pure { planId, providerId, period, startDate, renewalDate, lastPaymentDate, active, email }

def ofSubscription (s : Subscription) : Value :=
  .object [("plan_id", .int s.planId), ("provider_subscription_id", .string s.providerId),
    ("billing_period", ofPeriod s.period), ("start_date", ofOptional ofDateTime s.startDate),
    ("renewal_date", ofOptional ofDateTime s.renewalDate),
    ("last_payment_date", ofOptional ofDateTime s.lastPaymentDate), ("active", .bool s.active),
    ("email", .string s.email)]

def organization? (s : Site) : Option Organization := do
  let f ← s.slots? ["address", "subscription", "counters"]
  pure ⟨← f.required "address" Site.text?, ← f.required "subscription" subscription?,
    ← f.required "counters" counters?⟩

def ofOrganization (o : Organization) : Value :=
  .object [("address", .string o.address), ("subscription", ofSubscription o.subscription),
    ("counters", ofCounters o.counters)]

/-- Every limit that is missing is zero. -/
def limits? (s : Site) : Option PlanLimits := do
  let f ← s.slots? ["maxProcesses", "maxCensus", "maxDrafts", "maxSentEmails", "maxSentSms",
    "maxDurationDays", "maxSubOrgs", "maxUsers"]
  let maxProcesses ← f.defaulted "maxProcesses" 0 Site.int64?
  let maxCensus ← f.defaulted "maxCensus" 0 Site.int64?
  let maxDrafts ← f.defaulted "maxDrafts" 0 Site.int64?
  let maxSentEmails ← f.defaulted "maxSentEmails" 0 Site.int64?
  let maxSentSms ← f.defaulted "maxSentSms" 0 Site.int64?
  let maxDurationDays ← f.defaulted "maxDurationDays" 0 Site.int64?
  let maxSubOrgs ← f.defaulted "maxSubOrgs" 0 Site.int64?
  let maxUsers ← f.defaulted "maxUsers" 0 Site.int64?
  pure { maxProcesses, maxCensus, maxDrafts, maxSentEmails, maxSentSms, maxDurationDays,
         maxSubOrgs, maxUsers }

def ofLimits (l : PlanLimits) : Value :=
  .object [("maxProcesses", .int l.maxProcesses), ("maxCensus", .int l.maxCensus),
    ("maxDrafts", .int l.maxDrafts), ("maxSentEmails", .int l.maxSentEmails),
    ("maxSentSms", .int l.maxSentSms), ("maxDurationDays", .int l.maxDurationDays),
    ("maxSubOrgs", .int l.maxSubOrgs), ("maxUsers", .int l.maxUsers)]

/-- Every feature that is missing is off. -/
def features? (s : Site) : Option PlanFeatures := do
  let f ← s.slots? ["anonymous", "overwrite", "weighted", "personalization", "emailReminder",
    "twoFactorEmail", "twoFactorSms"]
  let anonymous ← f.defaulted "anonymous" false Site.bool?
  let overwrite ← f.defaulted "overwrite" false Site.bool?
  let weighted ← f.defaulted "weighted" false Site.bool?
  let personalization ← f.defaulted "personalization" false Site.bool?
  let emailReminder ← f.defaulted "emailReminder" false Site.bool?
  let twoFactorEmail ← f.defaulted "twoFactorEmail" false Site.bool?
  let twoFactorSms ← f.defaulted "twoFactorSms" false Site.bool?
  pure { anonymous, overwrite, weighted, personalization, emailReminder, twoFactorEmail,
         twoFactorSms }

def ofFeatures (f : PlanFeatures) : Value :=
  .object [("anonymous", .bool f.anonymous), ("overwrite", .bool f.overwrite),
    ("weighted", .bool f.weighted), ("personalization", .bool f.personalization),
    ("emailReminder", .bool f.emailReminder), ("twoFactorEmail", .bool f.twoFactorEmail),
    ("twoFactorSms", .bool f.twoFactorSms)]

def plan? (s : Site) : Option Plan := do
  let f ← s.slots? ["id", "name", "provider_product_id", "monthly_price_cents",
    "yearly_price_cents", "is_default", "free_trial_days", "limits", "features"]
  let id ← f.required "id" Site.int64?
  let name ← f.required "name" Site.text?
  let productId ← f.required "provider_product_id" Site.text?
  let monthlyPriceCents ← f.nullable "monthly_price_cents" (Site.optional Site.int64?)
  let yearlyPriceCents ← f.nullable "yearly_price_cents" (Site.optional Site.int64?)
  let isDefault ← f.required "is_default" Site.bool?
  let freeTrialDays ← f.required "free_trial_days" Site.int64?
  let limits ← f.required "limits" limits?
  let features ← f.required "features" features?
  pure { id, name, productId, monthlyPriceCents, yearlyPriceCents, isDefault, freeTrialDays,
         limits, features }

def ofPlan (p : Plan) : Value :=
  .object [("id", .int p.id), ("name", .string p.name),
    ("provider_product_id", .string p.productId),
    ("monthly_price_cents", ofOptional Value.int p.monthlyPriceCents),
    ("yearly_price_cents", ofOptional Value.int p.yearlyPriceCents),
    ("is_default", .bool p.isDefault), ("free_trial_days", .int p.freeTrialDays),
    ("limits", ofLimits p.limits), ("features", ofFeatures p.features)]

def snapshot? (s : Site) : Option Snapshot := do
  let f ← s.slots? ["id", "org_address", "period_start", "period_end", "billing_period",
    "baseline", "created_at"]
  let id ← f.required "id" uuid?
  let address ← f.required "org_address" Site.text?
  let periodStart ← f.required "period_start" dateTime?
  let periodEnd ← f.required "period_end" dateTime?
  let period ← f.required "billing_period" period?
  let baseline ← f.required "baseline" counters?
  let createdAt ← f.required "created_at" dateTime?
  pure { id, address, periodStart, periodEnd, period, baseline, createdAt }

def ofSnapshot (s : Snapshot) : Value :=
  .object [("id", ofUuid s.id), ("org_address", .string s.address),
    ("period_start", ofDateTime s.periodStart), ("period_end", ofDateTime s.periodEnd),
    ("billing_period", ofPeriod s.period), ("baseline", ofCounters s.baseline),
    ("created_at", ofDateTime s.createdAt)]

end TenantBilling.Encoding
