import TenantBilling.Proofs.Periods

/-! Days by their number and by their month. A day is found again from its number, and from its
year, month and day of the month; so a moment is found again from its instant and its offset. What
a year lacks of another one is its 29 February alone, which is why there is a moment of every
other year that is in range. -/

namespace TenantBilling.Calendar

namespace Date
variable {d d' : Date} {year : Int} {lengths : List Nat} {month n i days day : Nat}

/-! ## Days by number -/

section Cycles
variable {c q u v : Int}

/-- The years before a year make up so many cycles of 400, 100, 4 and 1 years. -/
theorem exists_cycles (year : Int) : ∃ c q u v : Int,
    year = 400 * c + 100 * q + 4 * u + v + 1 ∧ (0 ≤ q ∧ q ≤ 3) ∧ (0 ≤ u ∧ u ≤ 24) ∧
      0 ≤ v ∧ v ≤ 3 :=
  ⟨(year - 1) / 400, (year - 1) % 400 / 100, (year - 1) % 100 / 4, (year - 1) % 4, by omega,
    by omega, by omega, by omega⟩

theorem daysBefore_cycles (hq : 0 ≤ q ∧ q ≤ 3) (hu : 0 ≤ u ∧ u ≤ 24) (hv : 0 ≤ v ∧ v ≤ 3) :
    daysBefore (400 * c + 100 * q + 4 * u + v + 1) =
      146097 * c + 36524 * q + 1461 * u + 365 * v - 719163 := by
  simp only [daysBefore]
  omega

/-- The last year of a cycle of 4 years is a leap year, but not at the end of 100 years unless
that is the end of 400. -/
theorem daysInYear_cycles (hq : 0 ≤ q ∧ q ≤ 3) (hu : 0 ≤ u ∧ u ≤ 24) (hv : 0 ≤ v ∧ v ≤ 3) :
    (v = 3 ∧ (u ≤ 23 ∨ q = 3)) ∧ daysInYear (400 * c + 100 * q + 4 * u + v + 1) = 366 ∨
      ¬(v = 3 ∧ (u ≤ 23 ∨ q = 3)) ∧ daysInYear (400 * c + 100 * q + 4 * u + v + 1) = 365 := by
  have leap : isLeap (400 * c + 100 * q + 4 * u + v + 1) = true ↔ v = 3 ∧ (u ≤ 23 ∨ q = 3) := by
    rw [isLeap_iff]
    omega
  unfold daysInYear
  split
  · rename_i h
    exact Or.inl ⟨leap.mp h, rfl⟩
  · rename_i h
    exact Or.inr ⟨fun last => h (leap.mpr last), rfl⟩

end Cycles

/-- Counting cycles finds the year of a day. -/
theorem yearOfNumber_of_le (first : 1 ≤ n) (last : n ≤ daysInYear year) :
    yearOfNumber (daysBefore year + n) = year := by
  obtain ⟨c, q, u, v, rfl, hq, hu, hv⟩ := exists_cycles year
  have length := daysInYear_cycles (c := c) hq hu hv
  rw [daysBefore_cycles hq hu hv]
  obtain ⟨d, hd⟩ : ∃ d : Int, d = 36524 * q + 1461 * u + 365 * v + (n - 1) := ⟨_, rfl⟩
  have index : 146097 * c + 36524 * q + 1461 * u + 365 * v - 719163 + n + 719162 =
      146097 * c + d := by omega
  have cycles : (146097 * c + d) / 146097 = c ∧ (146097 * c + d) % 146097 = d := by omega
  have centuries : min (d / 36524) 3 = q := by omega
  have quads : (d - 36524 * q) / 1461 = u := by omega
  have years : min ((d - 36524 * q - 1461 * u) / 365) 3 = v := by omega
  simp only [yearOfNumber, index, cycles, centuries, quads, years]

/-- Every day number falls in the year that is found for it. -/
theorem yearOfNumber_bounds (m : Int) : daysBefore (yearOfNumber m) < m ∧
    m ≤ daysBefore (yearOfNumber m) + daysInYear (yearOfNumber m) := by
  obtain ⟨c, hc⟩ : ∃ c, c = (m + 719162) / 146097 := ⟨_, rfl⟩
  obtain ⟨d, hd⟩ : ∃ d, d = (m + 719162) % 146097 := ⟨_, rfl⟩
  obtain ⟨q, hq⟩ : ∃ q, q = min (d / 36524) 3 := ⟨_, rfl⟩
  obtain ⟨u, hu⟩ : ∃ u, u = (d - 36524 * q) / 1461 := ⟨_, rfl⟩
  obtain ⟨v, hv⟩ : ∃ v, v = min ((d - 36524 * q - 1461 * u) / 365) 3 := ⟨_, rfl⟩
  have year : yearOfNumber m = 400 * c + 100 * q + 4 * u + v + 1 := by
    simp only [yearOfNumber, ← hc, ← hd, ← hq, ← hu, ← hv]
  have index : m = 146097 * c + d - 719162 := by omega
  have range : (0 ≤ q ∧ q ≤ 3) ∧ (0 ≤ u ∧ u ≤ 24) ∧ 0 ≤ v ∧ v ≤ 3 := by omega
  obtain ⟨q_range, u_range, v_range⟩ := range
  have length := daysInYear_cycles (c := c) q_range u_range v_range
  rw [year, daysBefore_cycles q_range u_range v_range]
  omega

theorem ofOrdinal?_eq_some_iff : ofOrdinal? year n = some d ↔ d.year = year ∧ d.ordinal = n := by
  constructor
  · intro h
    unfold ofOrdinal? at h
    split at h
    · cases h
      exact ⟨rfl, rfl⟩
    · cases h
  · rintro ⟨rfl, rfl⟩
    exact dif_pos ⟨d.year_ge, d.year_le, d.ordinal_pos, d.ordinal_le⟩

theorem ofNumber?_eq_some_iff {m : Int} : ofNumber? m = some d ↔ d.number = m := by
  refine ⟨number_ofNumber?, ?_⟩
  rintro rfl
  have year := yearOfNumber_of_le d.ordinal_pos d.ordinal_le
  simp only [ofNumber?, number, year]
  exact ofOrdinal?_eq_some_iff.mpr ⟨rfl, by omega⟩

theorem exists_ofNumber?_iff {m : Int} : (∃ d, ofNumber? m = some d) ↔
    daysBefore leastYear < m ∧ m ≤ daysBefore (greatestYear + 1) := by
  constructor
  · rintro ⟨d, hd⟩
    have h := ofNumber?_eq_some_iff.mp hd
    have least := daysBefore_le d.year_ge
    have greatest := daysBefore_le (Int.add_le_add_right d.year_le 1)
    have first := d.ordinal_pos
    have last := d.ordinal_le
    rw [daysBefore_succ] at greatest
    unfold number at h
    omega
  · rintro ⟨first, last⟩
    obtain ⟨begun, ends⟩ := yearOfNumber_bounds m
    have least : leastYear ≤ yearOfNumber m := Int.not_lt.mp fun early => by
      have h := daysBefore_le (show yearOfNumber m + 1 ≤ leastYear from early)
      rw [daysBefore_succ] at h
      omega
    have greatest : yearOfNumber m ≤ greatestYear := Int.not_lt.mp fun late => by
      have h := daysBefore_le (show greatestYear + 1 ≤ yearOfNumber m from late)
      omega
    exact ⟨_, dif_pos ⟨least, greatest, by omega, by omega⟩⟩

/-! ## Days by month -/

theorem monthDay_of_place (month : Nat) (place : lengths[i]? = some days) (first : 1 ≤ day)
    (last : day ≤ days) :
    monthDay month (totalDays (lengths.take i) + day) lengths = (month + i, day) := by
  induction lengths generalizing month i with
  | nil => cases place
  | cons length rest ih =>
    cases i with
    | zero =>
      obtain rfl : length = days := Option.some.inj place
      simp [monthDay, totalDays, last]
    | succ i =>
      have later : ¬length + totalDays (rest.take i) + day ≤ length := by omega
      have left : length + totalDays (rest.take i) + day - length =
          totalDays (rest.take i) + day := by omega
      simp only [List.take_succ_cons, totalDays, monthDay, if_neg later, left, ih (month + 1) place]
      exact Prod.ext (by dsimp only; omega) rfl

theorem exists_place (first : 1 ≤ n) (last : n ≤ totalDays lengths) : ∃ i days day,
    lengths[i]? = some days ∧ 1 ≤ day ∧ day ≤ days ∧ n = totalDays (lengths.take i) + day := by
  induction lengths generalizing n with
  | nil =>
    simp only [totalDays] at last
    omega
  | cons length rest ih =>
    simp only [totalDays] at last
    by_cases here : n ≤ length
    · exact ⟨0, length, n, rfl, first, here, by simp [totalDays]⟩
    · obtain ⟨i, days, day, place, hfirst, hlast, h⟩ := ih (n := n - length) (by omega) (by omega)
      exact ⟨i + 1, days, day, place, hfirst, hlast, by
        simp only [List.take_succ_cons, totalDays]
        omega⟩

theorem totalDays_take_le (place : lengths[i]? = some days) :
    totalDays (lengths.take i) + days ≤ totalDays lengths := by
  induction lengths generalizing i with
  | nil => cases place
  | cons length rest ih =>
    cases i with
    | zero =>
      obtain rfl : length = days := Option.some.inj place
      simp [totalDays]
    | succ i =>
      have h := ih place
      simp only [List.take_succ_cons, totalDays]
      omega

theorem totalDays_monthLengths (year : Int) :
    totalDays (monthLengths (isLeap year)) = daysInYear year := by
  unfold daysInYear
  cases isLeap year <;> rfl

/-- A day has a place in a month of its year. -/
theorem exists_month (d : Date) : ∃ i days, (monthLengths (isLeap d.year))[i]? = some days ∧
    d.month = i + 1 ∧ 1 ≤ d.day ∧ d.day ≤ days ∧
    d.ordinal = totalDays ((monthLengths (isLeap d.year)).take i) + d.day := by
  have last := d.ordinal_le
  rw [← totalDays_monthLengths] at last
  obtain ⟨i, days, day, place, hfirst, hlast, h⟩ := exists_place d.ordinal_pos last
  have monthDay := monthDay_of_place 1 place hfirst hlast
  rw [← h] at monthDay
  have hmonth : d.month = 1 + i := congrArg Prod.fst monthDay
  have hday : d.day = day := congrArg Prod.snd monthDay
  exact ⟨i, days, place, by omega, hday ▸ hfirst, hday ▸ hlast, hday ▸ h⟩

theorem ofMonthDay?_eq_some_iff :
    ofMonthDay? year month day = some d ↔ d.year = year ∧ d.month = month ∧ d.day = day := by
  constructor
  · intro h
    unfold ofMonthDay? at h
    dsimp only at h
    split at h
    · rename_i days place
      split at h
      · rename_i fits
        obtain ⟨rfl, hordinal⟩ := ofOrdinal?_eq_some_iff.mp h
        have monthDay := monthDay_of_place 1 place fits.2.1 fits.2.2
        rw [← hordinal] at monthDay
        have hmonth : d.month = 1 + (month - 1) := congrArg Prod.fst monthDay
        exact ⟨rfl, by omega, congrArg Prod.snd monthDay⟩
      · cases h
    · cases h
  · rintro ⟨rfl, rfl, rfl⟩
    obtain ⟨i, days, place, hmonth, hfirst, hlast, hordinal⟩ := exists_month d
    obtain rfl : i = d.month - 1 := by omega
    unfold ofMonthDay?
    simp only [place, hfirst, hlast, and_self, and_true]
    rw [if_pos (by omega)]
    exact ofOrdinal?_eq_some_iff.mpr ⟨rfl, hordinal⟩

theorem exists_ofMonthDay? (least : leastYear ≤ year) (greatest : year ≤ greatestYear)
    (place : (monthLengths (isLeap year))[i]? = some days) (first : 1 ≤ day) (last : day ≤ days) :
    ∃ d, ofMonthDay? year (i + 1) day = some d := by
  have room := totalDays_take_le place
  rw [totalDays_monthLengths] at room
  unfold ofMonthDay?
  simp only [Nat.add_sub_cancel, place]
  rw [if_pos ⟨by omega, first, last⟩]
  exact ⟨_, dif_pos ⟨least, greatest, by omega, by omega⟩⟩

/-! ## The same day of another year -/

/-- A month is as long in a leap year as in a common one, but for the second. -/
theorem monthLengths_of_ne (leap leap' : Bool) (h : i ≠ 1) :
    (monthLengths leap)[i]? = (monthLengths leap')[i]? := by
  match i, h with
  | 0, _ => rfl
  | i + 2, _ => rfl

theorem le_monthLengths (leap leap' : Bool) (place : (monthLengths leap)[i]? = some days) :
    ∃ days', (monthLengths leap')[i]? = some days' ∧ 28 ≤ days' ∧
      (leap' = true → days ≤ days') := by
  have long : ∀ leap, ∀ days ∈ monthLengths leap, 28 ≤ days := by decide
  by_cases february : i = 1
  · subst february
    refine ⟨if leap' then 29 else 28, rfl, long leap' _ (List.mem_of_getElem? (i := 1) rfl), ?_⟩
    rintro rfl
    obtain rfl : (if leap then 29 else 28) = days := Option.some.inj place
    cases leap <;> decide
  · refine ⟨days, ?_, long leap days (List.mem_of_getElem? place), fun _ => Nat.le_refl _⟩
    rw [← place, monthLengths_of_ne leap' leap february]

/-- A moment of another year is of the same month, and of the same day where that year has it. -/
theorem inYear?_cases (h : d.inYear? year = some d') : d'.year = year ∧ d'.month = d.month ∧
    (d'.day = d.day ∨ d'.day = 28 ∧ ofMonthDay? year d.month d.day = none) := by
  unfold inYear? at h
  cases hday : ofMonthDay? year d.month d.day with
  | some x =>
    rw [hday] at h
    obtain rfl : x = d' := Option.some.inj h
    obtain ⟨hyear, hmonth, hday⟩ := ofMonthDay?_eq_some_iff.mp hday
    exact ⟨hyear, hmonth, Or.inl hday⟩
  | none =>
    rw [hday] at h
    obtain ⟨hyear, hmonth, hday⟩ := ofMonthDay?_eq_some_iff.mp h
    exact ⟨hyear, hmonth, Or.inr ⟨hday, rfl⟩⟩

theorem exists_inYear? (d : Date) (least : leastYear ≤ year) (greatest : year ≤ greatestYear) :
    ∃ d', d.inYear? year = some d' := by
  obtain ⟨i, days, place, hmonth, -⟩ := exists_month d
  obtain ⟨days', place', long, -⟩ := le_monthLengths _ (isLeap year) place
  obtain ⟨x, hx⟩ := exists_ofMonthDay? least greatest place' (by decide : 1 ≤ 28) long
  unfold inYear?
  rw [hmonth, hx, Option.or_some]
  exact ⟨_, rfl⟩

theorem inYear?_eq_none_iff :
    d.inYear? year = none ↔ year < leastYear ∨ greatestYear < year := by
  cases h : d.inYear? year with
  | none =>
    refine iff_of_true rfl (Decidable.byContradiction fun range => ?_)
    obtain ⟨d', hd'⟩ := exists_inYear? d (show leastYear ≤ year by omega) (by omega)
    cases h.symm.trans hd'
  | some d' =>
    have hyear := year_inYear? h
    have least := d'.year_ge
    have greatest := d'.year_le
    exact iff_of_false nofun (by omega)

theorem inYear?_self (d : Date) : d.inYear? d.year = some d := by
  unfold inYear?
  rw [ofMonthDay?_eq_some_iff.mpr ⟨rfl, rfl, rfl⟩, Option.some_or]

theorem day_le_of_common (common : isLeap d.year = false) (february : d.month = 2) :
    d.day ≤ 28 := by
  obtain ⟨i, days, place, hmonth, -, hlast, -⟩ := exists_month d
  obtain rfl : i = 1 := by omega
  rw [common] at place
  obtain rfl : 28 = days := Option.some.inj place
  exact hlast

/-- A year has every day of another one, but for its 29 February. -/
theorem exists_same_day (least : leastYear ≤ year) (greatest : year ≤ greatestYear)
    (h : ¬(d.month = 2 ∧ d.day = 29 ∧ isLeap year = false)) :
    ∃ x, ofMonthDay? year d.month d.day = some x := by
  obtain ⟨i, days, place, hmonth, first, last, -⟩ := exists_month d
  obtain ⟨days', place', -, long⟩ := le_monthLengths _ (isLeap year) place
  rw [hmonth]
  refine exists_ofMonthDay? least greatest place' first ?_
  cases leap : isLeap year with
  | true => exact Nat.le_trans last (long leap)
  | false =>
    by_cases february : i = 1
    · subst february
      rw [leap] at place'
      obtain rfl : (if isLeap d.year then 29 else 28) = days := Option.some.inj place
      obtain rfl : 28 = days' := Option.some.inj place'
      have short : (if isLeap d.year then 29 else 28) ≤ 29 := by split <;> decide
      have other : d.day ≠ 29 := fun day => h ⟨hmonth, day, leap⟩
      omega
    · rw [monthLengths_of_ne _ (isLeap d.year) february, place] at place'
      exact Option.some.inj place' ▸ last

theorem day_inYear? (h : d.inYear? year = some d') :
    d'.day = if d.month = 2 ∧ d.day = 29 ∧ isLeap year = false then 28 else d.day := by
  obtain ⟨rfl, hmonth, hday | ⟨hday, absent⟩⟩ := inYear?_cases h
  · rw [if_neg, hday]
    rintro ⟨february, last, common⟩
    have short := day_le_of_common common (hmonth.trans february)
    omega
  · rw [if_pos, hday]
    refine Decidable.byContradiction fun other => ?_
    obtain ⟨x, hx⟩ := exists_same_day d'.year_ge d'.year_le other
    rw [hx] at absent
    cases absent

end Date

namespace DateTime
variable {t t' : DateTime} {offset : Offset} {n : Int}

theorem lt_of_year_lt (offset : t.offset = t'.offset) (h : t.year < t'.year) : t < t' :=
  lt_of_number_lt offset (Date.number_lt h)

/-- A moment is found again from its instant and its offset. -/
theorem ofInstant?_eq_some_iff :
    ofInstant? offset n = some t ↔ t.instant = n ∧ t.offset = offset := by
  constructor
  · intro h
    refine ⟨instant_ofInstant? h, ?_⟩
    obtain ⟨date, -, rfl⟩ := Option.map_eq_some_iff.mp h
    rfl
  · rintro ⟨rfl, rfl⟩
    obtain ⟨date, second, nano, offset, hsecond, hnano⟩ := t
    have seconds : (DateTime.mk date second nano offset hsecond hnano).instant / nanosPerSecond +
        offset.seconds = date.number * secondsPerDay + second := by
      simp only [instant, unix, nanosPerSecond, secondsPerDay]
      omega
    have nanos : (DateTime.mk date second nano offset hsecond hnano).instant % nanosPerSecond =
        nano := by
      simp only [instant, nanosPerSecond]
      omega
    have day : (date.number * secondsPerDay + second) / secondsPerDay = date.number := by
      simp only [secondsPerDay]
      omega
    have time : (date.number * secondsPerDay + second) % secondsPerDay = second := by
      simp only [secondsPerDay]
      omega
    simp only [ofInstant?, seconds, nanos, day, time, Date.ofNumber?_eq_some_iff.mpr rfl,
      Option.map_some, Int.toNat_natCast]

theorem ofUnix?_eq_some_iff :
    ofUnix? n = some t ↔ t.unix = n ∧ t.nano = 0 ∧ t.offset = Offset.utc := by
  have hnano := t.nano_lt
  rw [ofUnix?, ofInstant?_eq_some_iff, ← and_assoc]
  refine and_congr_left fun _ => ?_
  simp only [instant, nanosPerSecond]
  omega

/-- The moments there are at an offset, from the first local second of the first year to the last
one of the last. -/
theorem exists_ofInstant?_iff : (∃ t, ofInstant? offset n = some t) ↔
    -377705116800 ≤ n / nanosPerSecond + offset.seconds ∧
      n / nanosPerSecond + offset.seconds ≤ 253402300799 := by
  have days : (∃ t, ofInstant? offset n = some t) ↔ ∃ d,
      Date.ofNumber? ((n / nanosPerSecond + offset.seconds) / secondsPerDay) = some d := by
    unfold ofInstant?
    simp only [Option.map_eq_some_iff]
    constructor
    · rintro ⟨_, d, h, _⟩
      exact ⟨d, h⟩
    · rintro ⟨d, h⟩
      exact ⟨_, d, h, rfl⟩
  rw [days, Date.exists_ofNumber?_iff]
  simp only [Date.daysBefore, leastYear, greatestYear, secondsPerDay]
  omega

theorem local_bounds (t : DateTime) : -377705116800 ≤ t.unix + t.offset.seconds ∧
    t.unix + t.offset.seconds ≤ 253402300799 := by
  rw [unix_eq_instant_div]
  exact exists_ofInstant?_iff.mp ⟨t, ofInstant?_eq_some_iff.mpr ⟨rfl, rfl⟩⟩

theorem exists_ofUnix?_iff :
    (∃ t, ofUnix? n = some t) ↔ -377705116800 ≤ n ∧ n ≤ 253402300799 := by
  have seconds : n * nanosPerSecond / nanosPerSecond + Offset.utc.seconds = n := by
    simp only [nanosPerSecond, Offset.utc]
    omega
  unfold ofUnix?
  rw [exists_ofInstant?_iff, seconds]

end DateTime

end TenantBilling.Calendar
