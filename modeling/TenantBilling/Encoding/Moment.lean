import TenantBilling.Account.Snapshot
import TenantBilling.Json.Record

/-! Dates and identifiers in JSON. A date is an array of its year, day of the year, hour,
minute, second and nanosecond, and the hours, minutes and seconds of its offset. -/

namespace TenantBilling.Encoding

open Calendar Json

/-- The sign of an offset is that of its largest part that is not zero. -/
def offsetSeconds (hours minutes seconds : Int) : Int :=
  let sign := if hours ≠ 0 then hours.sign else if minutes ≠ 0 then minutes.sign else seconds.sign
  sign * (3600 * hours.natAbs + 60 * minutes.natAbs + seconds.natAbs)

def dateTime? (s : Site) : Option DateTime := do
  match ← s.elements? with
  | [year, ordinal, hour, minute, second, nano, hours, minutes, seconds] =>
    let year ← year.within? leastYear greatestYear
    let ordinal ← ordinal.within? 1 366
    let date ← Date.ofOrdinal? year ordinal.toNat
    let hour ← hour.within? 0 23
    let minute ← minute.within? 0 59
    let second ← second.within? 0 59
    let nano ← nano.within? 0 999999999
    let hours ← hours.within? (-25) 25
    let minutes ← minutes.within? (-59) 59
    let seconds ← seconds.within? (-59) 59
    let offset ← Offset.ofSeconds? (offsetSeconds hours minutes seconds)
    let clock := (3600 * hour + 60 * minute + second).toNat
    if h : clock < 86400 ∧ nano.toNat < 1000000000 then
      pure ⟨date, clock, nano.toNat, offset, h.1, h.2⟩
    else none
  | _ => none

def ofDateTime (t : DateTime) : Value :=
  .array ([t.year, t.date.ordinal, t.second / 3600, t.second / 60 % 60, t.second % 60, t.nano,
    t.offset.seconds.tdiv 3600, (t.offset.seconds.tdiv 60).tmod 60,
    t.offset.seconds.tmod 60].map Value.int)

def uuid? (s : Site) : Option Uuid := s.text?.bind Uuid.ofText?

def ofUuid (u : Uuid) : Value := .string u.text

/-- Null for nothing. -/
def ofOptional {α : Type} (write : α → Value) : Option α → Value
  | none => .null
  | some a => write a

end TenantBilling.Encoding
