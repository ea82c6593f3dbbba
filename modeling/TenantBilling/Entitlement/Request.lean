/-! What a member of an organization can ask to do. -/

namespace TenantBilling

/-- The shape asked for in a new voting process. -/
structure ProcessShape where
  censusSize : Int
  durationDays : Int
  anonymous : Bool
  weighted : Bool
  voteOverwrite : Bool
deriving DecidableEq

/-- A transaction on voting processes. -/
inductive TxRequest where
  | newProcess (shape : ProcessShape)
  | setProcessCensus (censusSize : Int)
  | setProcessDuration (durationDays : Int)
  | setProcessStatus
  | addDelegate
  | delDelegate
deriving DecidableEq

namespace TxRequest

def name : TxRequest → String
  | newProcess _ => "new_process"
  | setProcessCensus _ => "set_process_census"
  | setProcessDuration _ => "set_process_duration"
  | setProcessStatus => "set_process_status"
  | addDelegate => "add_delegate"
  | delDelegate => "del_delegate"

/-- Whether the decision looks at the usage of the current period. -/
def needsUsage : TxRequest → Bool
  | newProcess _ => true
  | _ => false

end TxRequest

/-- A metered action other than a transaction. -/
inductive QuotaAction where
  | createDraft
  | inviteUser
  | deleteUser
  | createSubOrg
  | publishCensus (censusSize : Int) (twoFactorEmail twoFactorSms : Bool)
deriving DecidableEq

namespace QuotaAction

def name : QuotaAction → String
  | createDraft => "create_draft"
  | inviteUser => "invite_user"
  | deleteUser => "delete_user"
  | createSubOrg => "create_sub_org"
  | publishCensus _ _ _ => "publish_census"

end QuotaAction

end TenantBilling
