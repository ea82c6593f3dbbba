import TenantBilling.Ledger
import TenantBilling.Provider
import TenantBilling.Store

/-! Billing operations as programs. A program is a tree of calls to the collaborators, each
followed by what is done with its answer; it says nothing of who answers. One world answers
all calls in turn when a program runs alone, and programs that run at the same time take
turns call by call. -/

namespace TenantBilling

open Calendar

/-- The operations of a ledger. -/
inductive LedgerOp where
  | isMarked
  | mark
  | purge
deriving DecidableEq

namespace LedgerOp

def all : List LedgerOp := [isMarked, mark, purge]

def name : LedgerOp → String
  | isMarked => "exists"
  | mark => "mark_processed"
  | purge => "purge_expired"

end LedgerOp

/-- A call to a ledger with its arguments. -/
inductive LedgerCall where
  | isMarked (id : String)
  | mark (id : String)
  | purge

namespace LedgerCall

def op : LedgerCall → LedgerOp
  | isMarked _ => .isMarked
  | mark _ => .mark
  | purge => .purge

/-- What a call is answered with when it succeeds. -/
abbrev Answer : LedgerCall → Type
  | isMarked _ => Bool
  | mark _ => Unit
  | purge => Nat

end LedgerCall

/-- A step of a program that somebody else answers. -/
inductive Call where
  | now
  | freshId
  | verify (payload : List UInt8) (header : String)
  | store (c : StoreCall)
  | ledger (c : LedgerCall)
  | provider (c : ProviderCall)
  /-- Looks up the lock of a tenant; the answer is a ticket for it. -/
  | join (tenant : String)
  /-- Waits until the lock of a ticket is held. -/
  | acquire (ticket : Nat)
  | release (ticket : Nat)
  | enterCatalog
  | leaveCatalog

abbrev Call.Answer : Call → Type
  | now => DateTime
  | freshId => Uuid
  | verify _ _ => Except BillingError Event
  | store c => Except StoreError c.Answer
  | ledger c => Except Failure c.Answer
  | provider c => Except BillingError c.Answer
  | join _ => Nat
  | acquire _ => Unit
  | release _ => Unit
  | enterCatalog => Unit
  | leaveCatalog => Unit

inductive Proc (α : Type) where
  | done (a : α)
  | call (c : Call) (next : c.Answer → Proc α)

namespace Proc
variable {α β : Type}

def bind : Proc α → (α → Proc β) → Proc β
  | done a, f => f a
  | call c next, f => call c fun a => bind (next a) f

instance : Monad Proc where
  pure := done
  bind := bind

/-- The program that makes one call. -/
def ask (c : Call) : Proc c.Answer := call c done

theorem bind_done (p : Proc α) : bind p done = p := by
  induction p with
  | done a => rfl
  | call c next ih => simp only [bind, ih]

theorem bind_assoc {γ : Type} (p : Proc α) (f : α → Proc β) (g : β → Proc γ) :
    bind (bind p f) g = bind p fun a => bind (f a) g := by
  induction p with
  | done a => rfl
  | call c next ih => simp only [bind, ih]

instance : LawfulMonad Proc := LawfulMonad.mk' Proc
  (fun p => bind_done p) (fun _ _ => rfl) bind_assoc

end Proc

/-- A program that may end in a failure. -/
abbrev Action := ExceptT Failure Proc

namespace Action
variable {α : Type}

def ofExcept (e : Except BillingError α) : Action α :=
  ExceptT.mk (.done (e.mapError .error))

def fail (e : BillingError) : Action α := ofExcept (.error e)

def now : Action DateTime := ExceptT.lift (Proc.ask .now)

def freshId : Action Uuid := ExceptT.lift (Proc.ask .freshId)

def verify (payload : List UInt8) (header : String) : Action Event :=
  ExceptT.mk (Proc.call (.verify payload header) fun a => .done (a.mapError .error))

def store (c : StoreCall) : Action c.Answer :=
  ExceptT.mk (Proc.call (.store c) fun a => .done (a.mapError fun e => .error e.toBilling))

def ledger (c : LedgerCall) : Action c.Answer := ExceptT.mk (Proc.ask (.ledger c))

def provider (c : ProviderCall) : Action c.Answer :=
  ExceptT.mk (Proc.call (.provider c) fun a => .done (a.mapError .error))

/-- What was looked for, or the error that says it is not there. -/
def orFail (a : Option α) (e : BillingError) : Action α :=
  match a with
  | some a => pure a
  | none => fail e

/-- Runs an action while holding the lock of a tenant, which is released however it ends. -/
def withTenant (tenant : String) (body : Action α) : Action α := ExceptT.mk do
  let ticket ← Proc.ask (.join tenant)
  Proc.ask (.acquire ticket)
  let result ← body.run
  Proc.ask (.release ticket)
  pure result

/-- Runs an action while no other one changes the catalog. -/
def withCatalog (body : Action α) : Action α := ExceptT.mk do
  Proc.ask .enterCatalog
  let result ← body.run
  Proc.ask .leaveCatalog
  pure result

end Action

end TenantBilling
