import TenantBilling.Account.Basic
import TenantBilling.Text.Numeral

/-! Why a request is refused. A denial is an answer, not an error: it carries what was asked
for and what the plan allows. -/

namespace TenantBilling

inductive Feature where
  | anonymous
  | weighted
  | voteOverwrite
  | twoFactorEmail
  | twoFactorSms
deriving DecidableEq

def Feature.name : Feature → String
  | anonymous => "anonymous voting"
  | weighted => "weighted voting"
  | voteOverwrite => "vote overwrite"
  | twoFactorEmail => "two-factor email"
  | twoFactorSms => "two-factor SMS"

/-- A resource of which a plan allows some number each period. -/
inductive Allowance where
  | emails
  | sms
deriving DecidableEq

def Allowance.name : Allowance → String
  | emails => "email"
  | sms => "SMS"

inductive DenialReason where
  | noSubscription
  | subscriptionInactive
  | roleNotAllowed (role : Role) (action : String)
  | censusTooLarge (requested limit : Int)
  | processLimitReached (used limit : Int)
  | featureNotEnabled (feature : Feature)
  | durationTooLong (requested limit : Int)
  | draftLimitReached (count limit : Int)
  | userLimitReached (count limit : Int)
  | subOrgLimitReached (count limit : Int)
  | insufficientAllowance (resource : Allowance) (remaining requested : Int)
deriving DecidableEq

namespace DenialReason

/-- A number of a limit, in brackets. -/
def outOf (count limit : Int) : String :=
  " (" ++ Text.decimal count ++ " of " ++ Text.decimal limit ++ ")"

def message : DenialReason → String
  | noSubscription => "Organization has no subscription"
  | subscriptionInactive => "Subscription is not active"
  | roleNotAllowed role action => "Role " ++ role.name ++ " is not allowed to " ++ action
  | censusTooLarge requested limit =>
    "Census size " ++ Text.decimal requested ++ " exceeds the plan limit of " ++ Text.decimal limit
  | processLimitReached used limit => "Process limit reached" ++ outOf used limit
  | featureNotEnabled feature => "Plan does not include " ++ feature.name
  | durationTooLong requested limit =>
    "Duration of " ++ Text.decimal requested ++ " days exceeds the plan limit of " ++
      Text.decimal limit ++ " days"
  | draftLimitReached count limit => "Draft limit reached" ++ outOf count limit
  | userLimitReached count limit => "User limit reached" ++ outOf count limit
  | subOrgLimitReached count limit => "Sub-organization limit reached" ++ outOf count limit
  | insufficientAllowance resource remaining requested =>
    "Not enough " ++ resource.name ++ " allowance: " ++ Text.decimal remaining ++ " remaining, " ++
      Text.decimal requested ++ " requested"

end DenialReason

/-- The answer to a request. -/
inductive Permission where
  | allowed
  | denied (reason : DenialReason)
deriving DecidableEq

def Permission.isAllowed : Permission → Bool
  | allowed => true
  | denied _ => false

end TenantBilling
