/-! Days of the proleptic Gregorian calendar in the years -9999 to 9999, each held as a
year and a day of that year. Every day has a number, counted from 1970-01-01. -/

namespace TenantBilling.Calendar

def isLeap (year : Int) : Bool := year % 4 == 0 && (year % 100 != 0 || year % 400 == 0)

def daysInYear (year : Int) : Nat := if isLeap year then 366 else 365

def leastYear : Int := -9999

def greatestYear : Int := 9999

structure Date where
  year : Int
  /-- Day of the year, from 1. -/
  ordinal : Nat
  year_ge : leastYear ≤ year
  year_le : year ≤ greatestYear
  ordinal_pos : 1 ≤ ordinal
  ordinal_le : ordinal ≤ daysInYear year
deriving DecidableEq

namespace Date

def ofOrdinal? (year : Int) (ordinal : Nat) : Option Date :=
  if h : leastYear ≤ year ∧ year ≤ greatestYear ∧ 1 ≤ ordinal ∧ ordinal ≤ daysInYear year then
    some ⟨year, ordinal, h.1, h.2.1, h.2.2.1, h.2.2.2⟩
  else none

/-- Days from 1970-01-01 to the last day before a year. -/
def daysBefore (year : Int) : Int :=
  let y := year - 1
  365 * y + y / 4 - y / 100 + y / 400 - 719163

/-- Days from 1970-01-01 to this day. -/
def number (d : Date) : Int := daysBefore d.year + d.ordinal

/-- The year a day number falls in, found by counting whole cycles of 400, 100, 4 and 1 years. -/
def yearOfNumber (n : Int) : Int :=
  let d := n + 719162
  let cycles := d / 146097
  let d := d % 146097
  let centuries := min (d / 36524) 3
  let d := d - 36524 * centuries
  let quads := d / 1461
  let d := d - 1461 * quads
  let years := min (d / 365) 3
  400 * cycles + 100 * centuries + 4 * quads + years + 1

def ofNumber? (n : Int) : Option Date :=
  let year := yearOfNumber n
  ofOrdinal? year (n - daysBefore year).toNat

def monthLengths (leap : Bool) : List Nat :=
  [31, if leap then 29 else 28, 31, 30, 31, 30, 31, 31, 30, 31, 30, 31]

/-- The month and day of the day `n` of the months that remain, the first of which has the number
`month`. -/
def monthDay (month n : Nat) : List Nat → Nat × Nat
  | [] => (month, n)
  | days :: rest => if n ≤ days then (month, n) else monthDay (month + 1) (n - days) rest

def month (d : Date) : Nat := (monthDay 1 d.ordinal (monthLengths (isLeap d.year))).1

def day (d : Date) : Nat := (monthDay 1 d.ordinal (monthLengths (isLeap d.year))).2

/-- Days of all months in a list. -/
def totalDays : List Nat → Nat
  | [] => 0
  | days :: rest => days + totalDays rest

def ofMonthDay? (year : Int) (month day : Nat) : Option Date :=
  let lengths := monthLengths (isLeap year)
  match lengths[month - 1]? with
  | some days =>
    if 1 ≤ month ∧ 1 ≤ day ∧ day ≤ days then
      ofOrdinal? year (totalDays (lengths.take (month - 1)) + day)
    else none
  | none => none

/-- The same month and day of another year; the 28th where that year lacks the day. -/
def inYear? (d : Date) (year : Int) : Option Date :=
  (ofMonthDay? year d.month d.day).or (ofMonthDay? year d.month 28)

theorem isLeap_iff (year : Int) :
    isLeap year = true ↔ year % 4 = 0 ∧ (year % 100 ≠ 0 ∨ year % 400 = 0) := by
  simp [isLeap]

theorem daysBefore_succ (year : Int) :
    daysBefore (year + 1) = daysBefore year + daysInYear year := by
  have h := isLeap_iff year
  simp only [daysBefore, daysInYear]
  by_cases hl : isLeap year = true
  · have hy := h.mp hl
    simp only [hl, if_true]
    omega
  · have hy : ¬(year % 4 = 0 ∧ (year % 100 ≠ 0 ∨ year % 400 = 0)) := fun hc => hl (h.mpr hc)
    simp only [hl]
    simp only [Bool.false_eq_true, if_false]
    omega

theorem number_ofOrdinal? {year : Int} {ordinal : Nat} {d : Date}
    (h : ofOrdinal? year ordinal = some d) : d.number = daysBefore year + ordinal := by
  simp only [ofOrdinal?] at h
  split at h
  · cases h; rfl
  · cases h

theorem number_ofNumber? {n : Int} {d : Date} (h : ofNumber? n = some d) : d.number = n := by
  have hn := number_ofOrdinal? h
  have hpos := d.ordinal_pos
  simp only [number] at hn ⊢
  simp only [ofNumber?, ofOrdinal?] at h
  split at h
  · cases h
    dsimp only at hpos ⊢
    omega
  · cases h

end Date

end TenantBilling.Calendar
