import TenantBilling.Account.Basic

/-! The annual period an organization is in, counted in whole years from the start of its
subscription. Years are always counted from that start, so a start on 29 February comes back
in leap years. -/

namespace TenantBilling

open Calendar

/-- The moments from a start up to, but not including, an end. -/
structure Window where
  start : DateTime
  stop : DateTime
deriving DecidableEq

def Window.contains (w : Window) (at_ : DateTime) : Bool := w.start ≤ at_ && at_ < w.stop

/-- The same moment of another year; 28 February where that year has no 29th. -/
def addYears? (t : DateTime) (years : Int) : Option DateTime :=
  (t.date.inYear? (t.year + years)).map t.onDate

/-- Whole years from the year of a start to the year of a moment, none before the start. -/
def yearsBetween (start now : DateTime) : Int := max (now.year - start.year) 0

/-- The period around a moment that starts a whole number of years after the anchor. -/
def annualWindow? (anchor now : DateTime) : Option Window := do
  let elapsed := yearsBetween anchor now
  let start ← addYears? anchor elapsed
  if now < start ∧ 0 < elapsed then
    pure ⟨← addYears? anchor (elapsed - 1), ← addYears? anchor elapsed⟩
  else pure ⟨start, ← addYears? anchor (elapsed + 1)⟩

/-- The current period of a subscription: none when it is monthly or has no start. -/
def currentPeriod? (s : Subscription) (now : DateTime) : Option Window :=
  match s.period with
  | .monthly => none
  | .annual => s.startDate.bind (annualWindow? · now)

end TenantBilling
