import TenantBilling.Config
import TenantBilling.World

/-! Maintenance in the background: the ledger is swept and idle locks are evicted, each at
once and then at its own interval, for as long as time passes. -/

namespace TenantBilling

/-- How often a task runs that starts at once, over a span of time; times are in
milliseconds, and a run that would fall on the end of the span is not made, so an empty span
has none. -/
def runsWithin (interval span : Nat) : Nat := (span + interval - 1) / interval

/-- Purges the ledger so many times. An error is passed over; a date out of the calendar ends
the task. The answer is whether the task is still alive. -/
def purgeTimes : Nat → Proc Bool
  | 0 => .done true
  | n + 1 => .call (.ledger .purge) fun a =>
    match a with
    | .error .outOfCalendar => .done false
    | _ => purgeTimes n

/-- Lets maintenance run for some milliseconds; whether the sweeping task is still alive. -/
def World.maintain (w : World) (config : Config) (span : Nat) : Bool × World :=
  let (alive, w) := w.runProc (purgeTimes (runsWithin (1000 * config.sweepInterval) span))
  (alive, if runsWithin (1000 * config.evictionInterval) span = 0 then w else w.evictLocks.2)

/-- Sweeps a ledger in the background over a span of time: at once, and then at an interval,
which has to be positive for the task to start at all. The clock stands still meanwhile, so
every further sweep finds nothing to do. -/
def Ledger.sweepInBackground (l : Ledger) (now : Calendar.DateTime) (interval span : Nat) :
    Ledger :=
  if runsWithin interval span = 0 then l else ((l.sweep? now).map Prod.fst).getD l

end TenantBilling
