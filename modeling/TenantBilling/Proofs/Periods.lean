import TenantBilling.Usage.Period

/-! The order of annual periods. Of two moments of different years the one of the later year is
the later one; so whole years from a start come one after the other, and as time goes on at one
offset the current period is never an earlier one than before. -/

namespace TenantBilling

open Calendar

namespace Calendar

namespace Date

theorem daysBefore_le {a b : Int} (h : a ≤ b) : daysBefore a ≤ daysBefore b := by
  simp only [daysBefore]
  omega

/-- A day of an earlier year is an earlier day. -/
theorem number_lt {a b : Date} (h : a.year < b.year) : a.number < b.number := by
  have hnext := daysBefore_succ a.year
  have hlater : daysBefore (a.year + 1) ≤ daysBefore b.year := daysBefore_le h
  have hlast := a.ordinal_le
  have hfirst := b.ordinal_pos
  simp only [number]
  omega

theorem year_ofOrdinal? {year : Int} {ordinal : Nat} {d : Date}
    (h : ofOrdinal? year ordinal = some d) : d.year = year := by
  unfold ofOrdinal? at h
  split at h
  · cases h
    rfl
  · cases h

theorem year_ofMonthDay? {year : Int} {month day : Nat} {d : Date}
    (h : ofMonthDay? year month day = some d) : d.year = year := by
  unfold ofMonthDay? at h
  dsimp only at h
  split at h
  · split at h
    · exact year_ofOrdinal? h
    · cases h
  · cases h

theorem year_inYear? {d d' : Date} {year : Int} (h : d.inYear? year = some d') :
    d'.year = year := by
  unfold inYear? at h
  cases hday : ofMonthDay? year d.month d.day with
  | none =>
    rw [hday] at h
    exact year_ofMonthDay? h
  | some x =>
    rw [hday] at h
    obtain rfl : x = d' := Option.some.inj h
    exact year_ofMonthDay? hday

end Date

namespace DateTime
variable {a b : DateTime}

/-- At one offset, a moment of an earlier day is an earlier moment. -/
theorem lt_of_number_lt (offset : a.offset = b.offset) (h : a.date.number < b.date.number) :
    a < b := by
  have hsecond := a.second_lt
  have hnano := a.nano_lt
  rw [lt_iff]
  simp only [instant, unix, nanosPerSecond, secondsPerDay, offset]
  omega

theorem year_le (offset : a.offset = b.offset) (h : a ≤ b) : a.year ≤ b.year := by
  refine Int.not_lt.mp fun hlater => ?_
  have hlt : b < a := lt_of_number_lt offset.symm (Date.number_lt hlater)
  rw [le_iff] at h
  rw [lt_iff] at hlt
  omega

end DateTime

end Calendar

section Years
variable {t u v anchor now now' : DateTime} {j k : Int} {window window' : Window}

/-- Moving a moment to another year leaves its time of day and its offset. -/
theorem addYears?_some (h : addYears? t k = some u) :
    ∃ date : Date, date.year = t.year + k ∧ u = t.onDate date := by
  unfold addYears? at h
  obtain ⟨date, hdate, rfl⟩ := Option.map_eq_some_iff.mp h
  exact ⟨date, Date.year_inYear? hdate, rfl⟩

theorem addYears?_lt (hu : addYears? t j = some u) (hv : addYears? t k = some v) (h : j < k) :
    u < v := by
  obtain ⟨date, hdate, rfl⟩ := addYears?_some hu
  obtain ⟨date', hdate', rfl⟩ := addYears?_some hv
  refine DateTime.lt_of_number_lt rfl (Date.number_lt ?_)
  simp only [DateTime.onDate]
  omega

theorem addYears?_le (hu : addYears? t j = some u) (hv : addYears? t k = some v) (h : j ≤ k) :
    u ≤ v := by
  by_cases hjk : j = k
  · subst hjk
    obtain rfl := Option.some.inj (hu.symm.trans hv)
    exact Int.le_refl _
  · exact Int.le_of_lt (addYears?_lt hu hv (by omega))

/-- The period around a moment starts in the year of the moment, or in the year before when the
moment comes before the start in its own year. -/
theorem annualWindow?_start (h : annualWindow? anchor now = some window) :
    let years := yearsBetween anchor now
    ∃ start, addYears? anchor years = some start ∧
      addYears? anchor (if now < start ∧ 0 < years then years - 1 else years) =
        some window.start := by
  intro years
  unfold annualWindow? at h
  obtain ⟨start, hstart, h⟩ := Option.bind_eq_some_iff.mp h
  refine ⟨start, hstart, ?_⟩
  by_cases early : now < start ∧ 0 < years
  · rw [if_pos early] at h ⊢
    obtain ⟨before, hbefore, h⟩ := Option.bind_eq_some_iff.mp h
    obtain ⟨stop, -, h⟩ := Option.bind_eq_some_iff.mp h
    obtain rfl := Option.some.inj h
    exact hbefore
  · rw [if_neg early] at h ⊢
    obtain ⟨stop, -, h⟩ := Option.bind_eq_some_iff.mp h
    obtain rfl := Option.some.inj h
    exact hstart

/-- As time goes on at one offset, the current period starts no earlier than before. -/
theorem annualWindow?_le (offset : now'.offset = now.offset) (later : now ≤ now')
    (h : annualWindow? anchor now = some window) (h' : annualWindow? anchor now' = some window') :
    window.start ≤ window'.start := by
  obtain ⟨start, hstart, hfirst⟩ := annualWindow?_start h
  obtain ⟨start', hstart', hfirst'⟩ := annualWindow?_start h'
  refine addYears?_le hfirst hfirst' ?_
  by_cases same : yearsBetween anchor now = yearsBetween anchor now'
  · -- in one year, what comes before a moment that is early is early as well
    rw [← same] at hstart' ⊢
    obtain rfl := Option.some.inj (hstart.symm.trans hstart')
    have early (h : now' < start) : now < start := Int.lt_of_le_of_lt later h
    split
    · split <;> omega
    · rename_i late
      refine Int.le_of_eq ?_
      rw [if_neg fun hearly => late ⟨early hearly.1, hearly.2⟩]
  · have hyears : yearsBetween anchor now < yearsBetween anchor now' := by
      have hyear := DateTime.year_le offset.symm later
      unfold yearsBetween at same ⊢
      omega
    split <;> split <;> omega

theorem currentPeriod?_le {s : Subscription} (offset : now'.offset = now.offset)
    (later : now ≤ now') (h : currentPeriod? s now = some window)
    (h' : currentPeriod? s now' = some window') : window.start ≤ window'.start := by
  unfold currentPeriod? at h h'
  cases hperiod : s.period with
  | monthly =>
    rw [hperiod] at h
    cases h
  | annual =>
    rw [hperiod] at h h'
    obtain ⟨anchor, hanchor, h⟩ := Option.bind_eq_some_iff.mp h
    obtain ⟨anchor', hanchor', h'⟩ := Option.bind_eq_some_iff.mp h'
    obtain rfl := Option.some.inj (hanchor.symm.trans hanchor')
    exact annualWindow?_le offset later h h'

end Years

end TenantBilling
