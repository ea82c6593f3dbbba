import TenantBilling.Calendar.DateTime
import TenantBilling.Table
import TenantBilling.Text.Numeral

/-! The ledger of processed events. An event counts as processed for a fixed time after it was
last marked. Marks are also listed by the hour they fell in, so that a sweep drops whole hours
instead of looking at every mark. -/

namespace TenantBilling

open Calendar

structure Ledger where
  /-- How long a mark counts, in nanoseconds. -/
  ttl : Int
  /-- When each event was last marked. -/
  entries : Table String DateTime
  /-- The events marked in each hour since 1970, in the order of their marks. -/
  buckets : Table Int (List String)

namespace Ledger

def secondsPerHour : Int := 3600

/-- A time to live in nanoseconds, no longer than a signed 64-bit number of seconds allows. -/
def ttlOf (seconds nanos : Nat) : Int :=
  if (seconds : Int) ≤ Text.int64Greatest then seconds * nanosPerSecond + nanos
  else Text.int64Greatest * nanosPerSecond + 999999999

def new (ttl : Int) : Ledger := ⟨ttl, ∅, ∅⟩

def size (l : Ledger) : Nat := l.entries.size

/-- Whether an event was marked and its mark still counts. -/
def isMarked (l : Ledger) (now : DateTime) (id : String) : Bool :=
  match l.entries.get? id with
  | none => false
  | some marked => now.instant - marked.instant < l.ttl

def hourOf (t : DateTime) : Int := t.unix / secondsPerHour

def mark (l : Ledger) (now : DateTime) (id : String) : Ledger :=
  { l with
    entries := l.entries.insert id now
    buckets := l.buckets.insert (hourOf now) ((l.buckets.get? (hourOf now)).getD [] ++ [id]) }

/-- Whether the whole hour is over at the cutoff. -/
def isDue (cutoff : DateTime) (hour : Int) : Bool := (hour + 1) * secondsPerHour ≤ cutoff.unix

/-- Drops the mark of an event and counts it, unless it was marked again after the cutoff. -/
def expire (cutoff : DateTime) (s : Table String DateTime × Nat) (id : String) :
    Table String DateTime × Nat :=
  match s.1.get? id with
  | none => s
  | some marked => if marked ≤ cutoff then (s.1.erase id, s.2 + 1) else s

/-- Drops hour after hour, the earliest first, as long as the whole of it is over at the cutoff,
and the marks listed in it. Counts the marks that are dropped on from `removed`. -/
def sweepFrom (cutoff : DateTime) (l : Ledger) (removed : Nat) : Ledger × Nat :=
  match _ : l.buckets.first? with
  | none => (l, removed)
  | some (hour, ids) =>
    if isDue cutoff hour then
      let s := ids.foldl (expire cutoff) (l.entries, removed)
      sweepFrom cutoff { l with entries := s.1, buckets := l.buckets.erase hour } s.2
    else (l, removed)
termination_by l.buckets.size
decreasing_by exact Nat.lt_of_succ_le (Nat.le_of_eq (Table.size_erase _ (Table.get?_of_first? ‹_›)))

/-- The time before which marks no longer count; none when no calendar year holds it. -/
def cutoff? (l : Ledger) (now : DateTime) : Option DateTime := now.add? (-l.ttl)

/-- The ledger after a sweep and the number of marks the sweep dropped. -/
def sweep? (l : Ledger) (now : DateTime) : Option (Ledger × Nat) :=
  (l.cutoff? now).map fun cutoff => l.sweepFrom cutoff 0

theorem isDue_iff (cutoff : DateTime) (hour : Int) :
    isDue cutoff hour = true ↔ (hour + 1) * 3600 ≤ cutoff.unix := decide_eq_true_iff

end Ledger

end TenantBilling
