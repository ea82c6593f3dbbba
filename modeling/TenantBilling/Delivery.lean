import TenantBilling.Reconcile

/-! Webhook deliveries. An event is verified, skipped if the ledger has it, reconciled while
the lock of its organization is held, and marked once that succeeded. A failure leaves no
mark, so that the provider delivers the event again. -/

namespace TenantBilling

/-- What became of a delivery. -/
inductive DeliveryOutcome where
  | processed
  /-- The ledger has the event; nothing was done. -/
  | alreadyProcessed
  /-- The type of the event is not acted on; it was marked. -/
  | ignored
deriving DecidableEq

namespace Delivery

/-- Attempts to mark an event, the first one included. -/
def markAttempts : Nat := 3

/-- Marks an event, trying so often at most. A mark that is lost costs another application of
the event and nothing else, so failure is not reported. -/
def tryMark : Nat → String → Proc Unit
  | 0, _ => .done ()
  | n + 1, id => .call (.ledger (.mark id)) fun a =>
    match a with
    | .ok _ => .done ()
    | .error _ => tryMark n id

def mark (id : String) : Action Unit := ExceptT.lift (tryMark markAttempts id)

/-- Applies an event unless the ledger has it by now; its follow-up work, or none if it had. -/
def applyOnce (id : String) (apply : Action (Option CustomerBackfill)) :
    Action (Option (Option CustomerBackfill)) := do
  if ← Action.ledger (.isMarked id) then pure none
  else some <$> apply

/-- Applies an event under the lock that its kind calls for. -/
def dispatch (event : Event) : Action (Option (Option CustomerBackfill)) :=
  match event.kind with
  | .subscription e =>
    Action.withTenant e.address (applyOnce event.id do
      return (← Reconcile.applySubscription e).followUp)
  | .invoice e =>
    Action.withTenant e.address (applyOnce event.id do
      let _ ← Reconcile.applyInvoice e
      return none)
  | .product e =>
    Action.withCatalog (applyOnce event.id do
      let _ ← Reconcile.applyProduct e
      return none)
  | .unhandled => Action.fail (.invalidEvent ("no handler for " ++ event.type))

/-- Handles an event whose origin is beyond doubt. -/
def handle (event : Event) : Action DeliveryOutcome := do
  if ← Action.ledger (.isMarked event.id) then pure .alreadyProcessed
  else if event.kind = .unhandled then
    mark event.id
    pure .ignored
  else
    match ← dispatch event with
    | none => pure .alreadyProcessed
    | some followUp =>
      ExceptT.lift (Reconcile.runFollowUp followUp)
      mark event.id
      pure .processed

/-- Handles a payload as it arrived, with its signature header. -/
def process (payload : List UInt8) (header : String) : Action DeliveryOutcome := do
  handle (← Action.verify payload header)

end Delivery

end TenantBilling
