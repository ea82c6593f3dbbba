/-! Plans of the catalog: what they cost, what they limit and what they include. -/

namespace TenantBilling

structure PlanLimits where
  maxProcesses : Int
  maxCensus : Int
  maxDrafts : Int
  maxSentEmails : Int
  maxSentSms : Int
  maxDurationDays : Int
  maxSubOrgs : Int
  maxUsers : Int
deriving DecidableEq

def PlanLimits.none : PlanLimits := ⟨0, 0, 0, 0, 0, 0, 0, 0⟩

instance : Inhabited PlanLimits := ⟨.none⟩

structure PlanFeatures where
  anonymous : Bool
  overwrite : Bool
  weighted : Bool
  personalization : Bool
  emailReminder : Bool
  twoFactorEmail : Bool
  twoFactorSms : Bool
deriving DecidableEq

def PlanFeatures.none : PlanFeatures := ⟨false, false, false, false, false, false, false⟩

instance : Inhabited PlanFeatures := ⟨.none⟩

structure Plan where
  id : Int
  name : String
  /-- The provider's product the plan is sold under. -/
  productId : String
  monthlyPriceCents : Option Int
  yearlyPriceCents : Option Int
  isDefault : Bool
  freeTrialDays : Int
  limits : PlanLimits
  features : PlanFeatures
deriving DecidableEq, Inhabited

end TenantBilling
