import TenantBilling.Table

/-! Locks of tenants. A tenant has one mutex while anybody refers to it; a caller looks the
mutex up, tries to acquire it, and gives it up. Callers that found it taken are served in the
order in which they tried. A mutex that nobody refers to can be evicted. -/

namespace TenantBilling

/-- How far a caller has come with its mutex. -/
inductive LockStage where
  /-- It has looked the mutex up. -/
  | arrived
  /-- It found the mutex taken and waits in line. -/
  | queued
  /-- The mutex was passed on to it, and it has not noticed yet. -/
  | assigned
  | held
deriving DecidableEq

/-- Whether a mutex at this stage of a caller is no longer free. -/
def LockStage.takes : LockStage → Bool
  | .assigned => true
  | .held => true
  | _ => false

structure LockCaller (η : Type) where
  handle : η
  tenant : String
  mutex : Nat
  stage : LockStage
deriving DecidableEq

structure LockTable (η : Type) where
  /-- The mutex of each tenant that has one. -/
  mutexes : Table String Nat
  /-- Everybody who refers to a mutex; those in line stand in its order. -/
  callers : List (LockCaller η)
  nextMutex : Nat

namespace LockTable
variable {η : Type} [DecidableEq η]

def empty : LockTable η := ⟨∅, [], 0⟩

instance : Inhabited (LockTable η) := ⟨empty⟩

def size (t : LockTable η) : Nat := t.mutexes.size

/-- Whether nobody holds a mutex and it is not promised to anybody. -/
def isFree (t : LockTable η) (mutex : Nat) : Bool :=
  !t.callers.any fun c => c.mutex == mutex && c.stage.takes

def caller? (t : LockTable η) (handle : η) : Option (LockCaller η) :=
  t.callers.find? fun c => c.handle == handle

/-- Looks up the mutex of a tenant, or creates it. -/
def join (t : LockTable η) (handle : η) (tenant : String) : LockTable η :=
  match t.mutexes.get? tenant with
  | some mutex => { t with callers := t.callers ++ [⟨handle, tenant, mutex, .arrived⟩] }
  | none =>
    { mutexes := t.mutexes.insert tenant t.nextMutex
      callers := t.callers ++ [⟨handle, tenant, t.nextMutex, .arrived⟩]
      nextMutex := t.nextMutex + 1 }

def setStage (t : LockTable η) (handle : η) (stage : LockStage) : LockTable η :=
  { t with
    callers := t.callers.map fun c => if c.handle = handle then { c with stage } else c }

/-- Moves a caller to the end of the line. -/
def enqueue (t : LockTable η) (c : LockCaller η) : LockTable η :=
  { t with
    callers := (t.callers.filter fun d => d.handle != c.handle) ++ [{ c with stage := .queued }] }

/-- Tries to acquire the mutex a caller looked up; whether the caller holds it now. -/
def poll (t : LockTable η) (handle : η) : LockTable η × Bool :=
  match t.caller? handle with
  | none => (t, false)
  | some c =>
    match c.stage with
    | .held => (t, true)
    | .assigned => (t.setStage handle .held, true)
    | .queued => (t, false)
    | .arrived => if t.isFree c.mutex then (t.setStage handle .held, true) else (t.enqueue c, false)

/-- Promises a mutex to the first in line. -/
def passOn (mutex : Nat) : List (LockCaller η) → List (LockCaller η)
  | [] => []
  | c :: cs =>
    if c.mutex = mutex ∧ c.stage = .queued then { c with stage := .assigned } :: cs
    else c :: passOn mutex cs

/-- Removes a caller, whether it holds its mutex or still waits for it. -/
def leave (t : LockTable η) (handle : η) : LockTable η :=
  match t.caller? handle with
  | none => t
  | some c =>
    let rest := t.callers.filter fun d => d.handle != handle
    { t with callers := if c.stage.takes then passOn c.mutex rest else rest }

def isReferred (t : LockTable η) (mutex : Nat) : Bool := t.callers.any fun c => c.mutex == mutex

/-- Forgets the mutexes that nobody refers to. -/
def evictIdle (t : LockTable η) : LockTable η :=
  { t with mutexes := t.mutexes.filter fun _ mutex => t.isReferred mutex }

/-- The table without idle mutexes, and how many there were. -/
def evict (t : LockTable η) : LockTable η × Nat :=
  let rest := t.evictIdle
  (rest, t.size - rest.size)

def holders (t : LockTable η) : List η :=
  (t.callers.filter fun c => c.stage == .held).map (·.handle)

def waiters (t : LockTable η) : List η :=
  (t.callers.filter fun c => c.stage != .held).map (·.handle)

end LockTable

end TenantBilling
