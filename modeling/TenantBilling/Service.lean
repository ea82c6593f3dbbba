import TenantBilling.Delivery
import TenantBilling.Entitlement.Check
import TenantBilling.Health.Inspect
import TenantBilling.Maintenance

/-! A billing service: a configuration, and the world its operations run in. -/

namespace TenantBilling

open Calendar

structure Service where
  config : Config
  world : World

namespace Service
variable {α : Type}

/-- A service over a store and a provider in memory, at a time the clock shows. -/
def inMemory (config : Config) (clock : DateTime) (ledgerTtl : Int) (isObserved : Bool) :
    Service where
  config
  world := .new clock (.new (.new ledgerTtl) isObserved)
    (.new config.provider.webhookSecret config.provider.webhookTolerance)

/-- A service over a database whose pool is closed. -/
def onClosedPool (config : Config) (clock : DateTime) : Service :=
  let s := inMemory config clock config.ledgerTtl true
  { s with world := { s.world with poolClosed := true } }

def run (s : Service) (action : Action α) : Except Failure α × Service :=
  let (result, world) := s.world.run action
  (result, { s with world })

/-- Delivers a payload with its header; without one, with the header that signs it `offset`
seconds from the provider's time. -/
def deliver (s : Service) (payload : List UInt8) (header : Option String) (offset : Int) :
    Except Failure DeliveryOutcome × Service :=
  let signed := Signature.sign payload s.world.provider.secret (s.world.clock.unix + offset)
  s.run (Delivery.process payload (header.getD signed))

def checkTx (s : Service) (tx : TxRequest) (address : String) (role : Role) :
    Except Failure Permission × Service :=
  s.run (Entitlement.checkTx s.config.testCensusAllowance tx address role)

def checkQuota (s : Service) (address : String) (role : Role) (action : QuotaAction) :
    Except Failure Permission × Service :=
  s.run (Entitlement.checkQuota s.config.testCensusAllowance address role action)

/-- Applies a subscription event outside of a delivery, and its follow-up work if asked to. -/
def applySubscription (s : Service) (e : SubscriptionEvent) (runFollowUp : Bool) :
    Except Failure Reconciled × Service :=
  s.run do
    let r ← Reconcile.applySubscription e
    if runFollowUp then ExceptT.lift (Reconcile.runFollowUp r.followUp)
    pure r

end Service

end TenantBilling
