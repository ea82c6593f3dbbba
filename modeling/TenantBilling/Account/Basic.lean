import TenantBilling.Calendar.DateTime
import TenantBilling.Table

/-! Tenants: organizations, the subscription each is on, the roles of its members and the
counters of what it has used. -/

namespace TenantBilling

open Calendar

/-- How often a subscription is billed. -/
inductive BillingPeriod where
  | monthly
  | annual
deriving DecidableEq, Inhabited

namespace BillingPeriod

def name : BillingPeriod → String
  | .monthly => "monthly"
  | .annual => "annual"

/-- The period a stored name or a recurring interval stands for. -/
def ofText? (s : String) : Option BillingPeriod :=
  if s = "monthly" ∨ s = "month" then some .monthly
  else if s = "annual" ∨ s = "year" ∨ s = "yearly" then some .annual
  else none

theorem ofText?_name (p : BillingPeriod) : ofText? p.name = some p := by
  cases p <;> simp [ofText?, name]

end BillingPeriod

/-- What a member of an organization may do. -/
inductive Role where
  | admin
  | manager
  | viewer
deriving DecidableEq, Inhabited

namespace Role

def name : Role → String
  | .admin => "admin"
  | .manager => "manager"
  | .viewer => "viewer"

def isAdmin : Role → Bool
  | .admin => true
  | _ => false

/-- Admins and managers operate on what already exists. -/
def canManage : Role → Bool
  | .viewer => false
  | _ => true

theorem canManage_of_isAdmin {r : Role} (h : r.isAdmin = true) : r.canManage = true := by
  cases r <;> simp_all [isAdmin, canManage]

end Role

/-- What was used: over a lifetime, or since a baseline. -/
structure Counters where
  processes : Int
  sentEmails : Int
  sentSms : Int
deriving DecidableEq

namespace Counters

def zero : Counters := ⟨0, 0, 0⟩

instance : Inhabited Counters := ⟨zero⟩

/-- What came on top of a baseline, each component at least zero. -/
def since (lifetime baseline : Counters) : Counters :=
  ⟨max (lifetime.processes - baseline.processes) 0,
   max (lifetime.sentEmails - baseline.sentEmails) 0,
   max (lifetime.sentSms - baseline.sentSms) 0⟩

theorem since_self (c : Counters) : c.since c = zero := by simp [since, zero]

end Counters

/-- The plan id of an organization that was never subscribed. -/
def noPlan : Int := 0

structure Subscription where
  planId : Int
  /-- The provider's id of the subscription, empty on the default plan. -/
  providerId : String
  period : BillingPeriod
  startDate : Option DateTime
  renewalDate : Option DateTime
  lastPaymentDate : Option DateTime
  active : Bool
  email : String
deriving DecidableEq

namespace Subscription

/-- The subscription of a newly created organization. -/
def blank : Subscription := ⟨noPlan, "", .monthly, none, none, none, false, ""⟩

instance : Inhabited Subscription := ⟨blank⟩

def hasPlan (s : Subscription) : Bool := s.planId != noPlan

def hasProvider (s : Subscription) : Bool := s.providerId != ""

theorem hasPlan_iff {s : Subscription} : s.hasPlan = true ↔ s.planId ≠ 0 := bne_iff_ne

theorem hasProvider_iff {s : Subscription} : s.hasProvider = true ↔ s.providerId ≠ "" := bne_iff_ne

theorem hasProvider_eq_false_iff {s : Subscription} :
    s.hasProvider = false ↔ s.providerId = "" := bne_eq_false_iff_eq

/-- Whether two records say the same, their dates compared as instants. -/
def agrees (a b : Subscription) : Bool :=
  a.planId == b.planId && a.providerId == b.providerId && a.period == b.period &&
    sameMoment a.startDate b.startDate && sameMoment a.renewalDate b.renewalDate &&
    sameMoment a.lastPaymentDate b.lastPaymentDate && a.active == b.active && a.email == b.email

theorem agrees_refl (s : Subscription) : s.agrees s = true := by
  simp [agrees, sameMoment_refl]

end Subscription

structure Organization where
  address : String
  subscription : Subscription
  counters : Counters
deriving DecidableEq, Inhabited

end TenantBilling
