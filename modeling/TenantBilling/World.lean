import TenantBilling.LockTable
import TenantBilling.Proc

/-! The world a program runs in when it runs alone: a store, a ledger, a provider, locks and
a clock. It answers every call at once, and keeps what earlier calls did when a later one fails. -/

namespace TenantBilling

open Calendar

/-- A ledger as its callers meet it, with planned failures and planned answers. -/
structure LedgerDesk where
  ledger : Ledger
  /-- Whether failures can be planned and calls are counted. -/
  isObserved : Bool
  /-- Answers given in place of the ledger's to the next questions. -/
  script : List Bool
  outages : Outages LedgerOp
  /-- How often a mark was asked for. -/
  markCalls : Nat

namespace LedgerDesk

def new (ledger : Ledger) (isObserved : Bool) : LedgerDesk := ⟨ledger, isObserved, [], .none, 0⟩

def unavailable : Failure := .error (.database "ledger unavailable")

def isMarked (d : LedgerDesk) (now : DateTime) (id : String) : Bool × LedgerDesk :=
  match d.script with
  | answer :: rest => (answer, { d with script := rest })
  | [] => (d.ledger.isMarked now id, d)

/-- The answer of a ledger that can be reached. -/
def reply (d : LedgerDesk) (now : DateTime) :
    (c : LedgerCall) → Except Failure c.Answer × LedgerDesk
  | .isMarked id => (.ok (d.isMarked now id).1, (d.isMarked now id).2)
  | .mark id => (.ok (), { d with ledger := d.ledger.mark now id })
  | .purge =>
    match d.ledger.sweep? now with
    | some (ledger, removed) => (.ok removed, { d with ledger })
    | none => (.error .outOfCalendar, d)

/-- Counts a call when it asks for a mark. -/
def count (d : LedgerDesk) : LedgerCall → LedgerDesk
  | .mark _ => if d.isObserved then { d with markCalls := d.markCalls + 1 } else d
  | _ => d

def answer (d : LedgerDesk) (now : DateTime) (c : LedgerCall) :
    Except Failure c.Answer × LedgerDesk :=
  let (fails, outages) := d.outages.strike c.op
  let d := { d.count c with outages }
  if fails then (.error unavailable, d) else d.reply now c

/-- The marks that somebody outside can see. -/
def visibleSize (d : LedgerDesk) : Nat := if d.isObserved then d.ledger.size else 0

end LedgerDesk

/-- A store as its callers meet it, with planned failures. -/
structure StoreDesk where
  store : Store
  outages : Outages StoreOp

namespace StoreDesk

def unavailable (op : StoreOp) : StoreError := .database (op.name ++ " unavailable")

def answer (d : StoreDesk) (c : StoreCall) : Except StoreError c.Answer × StoreDesk :=
  let (fails, outages) := d.outages.strike c.op
  if fails then (.error (unavailable c.op), { d with outages })
  else ((d.store.answer c).1, ⟨(d.store.answer c).2, outages⟩)

end StoreDesk

structure World where
  /-- The clock of the provider and the ledger. -/
  clock : DateTime
  /-- The clock of everything else, when it is another one. -/
  wall : Option DateTime
  desk : StoreDesk
  ledger : LedgerDesk
  provider : Provider
  locks : LockTable Nat
  catalogTaken : Bool
  nextTicket : Nat
  nextId : Nat
  /-- Whether store and ledger sit on a database that takes no connections. -/
  poolClosed : Bool

namespace World
variable {α : Type}

def new (clock : DateTime) (ledger : LedgerDesk) (provider : Provider) : World where
  clock
  wall := none
  desk := ⟨default, .none⟩
  ledger
  provider
  locks := .empty
  catalogTaken := false
  nextTicket := 0
  nextId := 1
  poolClosed := false

def now (w : World) : DateTime := w.wall.getD w.clock

def store (w : World) : Store := w.desk.store

/-- Changes the store directly, past every planned failure. -/
def withStore (w : World) (store : Store) : World := { w with desk := { w.desk with store } }

/-- Plans failures or answers of the ledger, where they can be planned. -/
def planLedger (w : World) (plan : LedgerDesk → LedgerDesk) : World :=
  if w.ledger.isObserved then { w with ledger := plan w.ledger } else w

/-- How a store without its database answers. -/
def closedStore (c : StoreCall) : Except StoreError c.Answer :=
  .error ConnectionError.poolClosed.toStore

/-- How a ledger without its database answers. Questions and purges compute the time before
which marks no longer count first. -/
def closedLedger (w : World) (c : LedgerCall) : Except Failure c.Answer :=
  let down : Failure := .error ConnectionError.poolClosed.toBilling
  match c.op with
  | .mark => .error down
  | _ => if (w.ledger.ledger.cutoff? w.clock).isNone then .error .outOfCalendar else .error down

/-- Answers a call and carries it out. -/
def answer (w : World) : (c : Call) → c.Answer × World
  | .now => (w.now, w)
  | .freshId => (⟨BitVec.ofNat 128 w.nextId⟩, { w with nextId := w.nextId + 1 })
  | .verify payload header => (w.provider.verify w.clock.unix payload header, w)
  | .store c =>
    if w.poolClosed then (closedStore c, w)
    else ((w.desk.answer c).1, { w with desk := (w.desk.answer c).2 })
  | .ledger c =>
    if w.poolClosed then (w.closedLedger c, w)
    else ((w.ledger.answer w.clock c).1, { w with ledger := (w.ledger.answer w.clock c).2 })
  | .provider c => ((w.provider.answer c).1, { w with provider := (w.provider.answer c).2 })
  | .join tenant =>
    (w.nextTicket, { w with
      locks := w.locks.join w.nextTicket tenant
      nextTicket := w.nextTicket + 1 })
  | .acquire ticket => ((), { w with locks := (w.locks.poll ticket).1 })
  | .release ticket => ((), { w with locks := w.locks.leave ticket })
  | .enterCatalog => ((), { w with catalogTaken := true })
  | .leaveCatalog => ((), { w with catalogTaken := false })

/-- Runs a program to its end. -/
def runProc : Proc α → World → α × World
  | .done a, w => (a, w)
  | .call c next, w => runProc (next (w.answer c).1) (w.answer c).2

def run (w : World) (action : Action α) : Except Failure α × World := runProc action.run w

/-- Removes the idle locks; how many there were. -/
def evictLocks (w : World) : Nat × World := (w.locks.evict.2, { w with locks := w.locks.evict.1 })

/-- Moves the clock by some nanoseconds; none when no calendar year holds the new time. -/
def advance? (w : World) (nanos : Int) : Option World :=
  (w.clock.add? nanos).map fun clock => { w with clock }

@[simp] theorem runProc_done (a : α) (w : World) : runProc (.done a) w = (a, w) := rfl

theorem runProc_bind {β : Type} (p : Proc α) (f : α → Proc β) (w : World) :
    runProc (p.bind f) w = runProc (f (runProc p w).1) (runProc p w).2 := by
  induction p generalizing w with
  | done a => rfl
  | call c next ih => simp only [Proc.bind, runProc, ih]

end World

end TenantBilling
