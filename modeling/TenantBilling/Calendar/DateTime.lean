import TenantBilling.Calendar.Date

/-! A moment written at an offset from UTC: a day, a second of that day, and nanoseconds.
Its calendar fields are the local ones, and so is the range of years; the instant it
stands for is a number of nanoseconds, and instants are what is compared. -/

namespace TenantBilling.Calendar

def nanosPerSecond : Int := 1000000000

def secondsPerDay : Int := 86400

/-- An offset from UTC in seconds, at most 25 hours 59 minutes and 59 seconds either way. -/
structure Offset where
  seconds : Int
  ge : -93599 ≤ seconds
  le : seconds ≤ 93599
deriving DecidableEq

def Offset.utc : Offset := ⟨0, by decide, by decide⟩

def Offset.ofSeconds? (s : Int) : Option Offset :=
  if h : -93599 ≤ s ∧ s ≤ 93599 then some ⟨s, h.1, h.2⟩ else none

structure DateTime where
  date : Date
  second : Nat
  nano : Nat
  offset : Offset
  second_lt : second < 86400
  nano_lt : nano < 1000000000
deriving DecidableEq

namespace DateTime

def year (t : DateTime) : Int := t.date.year

/-- Whole seconds since 1970-01-01 00:00 UTC, rounded down. -/
def unix (t : DateTime) : Int := t.date.number * secondsPerDay + t.second - t.offset.seconds

/-- The instant, in nanoseconds since 1970-01-01 00:00 UTC. -/
def instant (t : DateTime) : Int := t.unix * nanosPerSecond + t.nano

/-- The moment of an instant at an offset; none when its local year is out of range. -/
def ofInstant? (offset : Offset) (n : Int) : Option DateTime :=
  let seconds := n / nanosPerSecond + offset.seconds
  (Date.ofNumber? (seconds / secondsPerDay)).map fun date =>
    { date
      second := (seconds % secondsPerDay).toNat
      nano := (n % nanosPerSecond).toNat
      offset
      second_lt := by simp only [secondsPerDay]; omega
      nano_lt := by simp only [nanosPerSecond]; omega }

/-- The moment a number of seconds after 1970-01-01 00:00, in UTC. -/
def ofUnix? (seconds : Int) : Option DateTime := ofInstant? Offset.utc (seconds * nanosPerSecond)

/-- The moment some nanoseconds later, at the same offset. -/
def add? (t : DateTime) (nanos : Int) : Option DateTime := ofInstant? t.offset (t.instant + nanos)

/-- Whether two moments are the same instant, however they are written. -/
def same (a b : DateTime) : Bool := a.instant == b.instant

/-- The same local time of day on another day. -/
def onDate (t : DateTime) (date : Date) : DateTime := { t with date }

instance : LT DateTime := ⟨fun a b => a.instant < b.instant⟩

instance : LE DateTime := ⟨fun a b => a.instant ≤ b.instant⟩

instance (a b : DateTime) : Decidable (a < b) := inferInstanceAs (Decidable (a.instant < b.instant))

instance (a b : DateTime) : Decidable (a ≤ b) := inferInstanceAs (Decidable (a.instant ≤ b.instant))

theorem lt_iff (a b : DateTime) : a < b ↔ a.instant < b.instant := Iff.rfl

theorem le_iff (a b : DateTime) : a ≤ b ↔ a.instant ≤ b.instant := Iff.rfl

theorem same_iff (a b : DateTime) : a.same b = true ↔ a.instant = b.instant := by simp [same]

theorem same_refl (a : DateTime) : a.same a = true := by simp [same]

theorem unix_eq_instant_div (t : DateTime) : t.unix = t.instant / nanosPerSecond := by
  have h := t.nano_lt
  simp only [instant, nanosPerSecond]
  omega

theorem instant_ofInstant? {offset : Offset} {n : Int} {t : DateTime}
    (h : ofInstant? offset n = some t) : t.instant = n := by
  simp only [ofInstant?, Option.map_eq_some_iff] at h
  obtain ⟨date, hdate, rfl⟩ := h
  have hnumber := Date.number_ofNumber? hdate
  simp only [instant, unix, nanosPerSecond, secondsPerDay] at hnumber ⊢
  omega

theorem instant_add? {t u : DateTime} {nanos : Int} (h : t.add? nanos = some u) :
    u.instant = t.instant + nanos := instant_ofInstant? h

end DateTime

/-- Whether two optional moments are both absent, or present at the same instant. -/
def sameMoment : Option DateTime → Option DateTime → Bool
  | none, none => true
  | some a, some b => a.same b
  | _, _ => false

theorem sameMoment_refl (a : Option DateTime) : sameMoment a a = true := by
  cases a <;> simp [sameMoment, DateTime.same_refl]

theorem sameMoment_comm (a b : Option DateTime) : sameMoment a b = sameMoment b a := by
  cases a with
  | none => cases b <;> rfl
  | some a =>
    cases b with
    | none => rfl
    | some b => exact BEq.comm

end TenantBilling.Calendar
