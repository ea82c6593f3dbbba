import TenantBilling.Proofs.Anniversaries

/-! Moments and the ways they are written. The current period is guessed from the local year of a
moment, and a guess that is one year too late is put right. So where the year of a moment and the
years of the anniversaries are read at two offsets, the guess can be wrong by one year more: a year
too early, or two years too late. Here it is shown when that is so, that the period is another one
exactly then, and that it is never so of a start that is three days away from the new year. -/

namespace TenantBilling

open Calendar

/-- Whether two periods are of the same instants, or there is neither. -/
def samePeriod (p q : Option Window) : Bool :=
  sameMoment (p.map (·.start)) (q.map (·.start)) && sameMoment (p.map (·.stop)) (q.map (·.stop))

/-- A start that is no less than three days away from the new year. -/
structure AwayFromNewYear (anchor : DateTime) : Prop where
  january : anchor.date.month = 1 → 4 ≤ anchor.date.day
  december : anchor.date.month = 12 → anchor.date.day ≤ 28

namespace Calendar

theorem Date.number_le (d : Date) : d.number ≤ Date.daysBefore (d.year + 1) := by
  have last := d.ordinal_le
  rw [Date.daysBefore_succ]
  unfold Date.number
  omega

/-- Days that are more than three apart are so at any offsets. -/
theorem DateTime.lt_of_number_add_lt {a b : DateTime} (h : a.date.number + 3 < b.date.number) :
    a < b := by
  have second := a.second_lt
  have nano := a.nano_lt
  have least := a.offset.ge
  have greatest := b.offset.le
  rw [DateTime.lt_iff]
  simp only [DateTime.instant, DateTime.unix, nanosPerSecond, secondsPerDay]
  omega

/-- Years that are more than one apart are so at any offsets. -/
theorem DateTime.lt_of_year_add_lt {a b : DateTime} (h : a.year + 1 < b.year) : a < b := by
  refine DateTime.lt_of_number_add_lt ?_
  have first := b.date.ordinal_pos
  have last := a.date.number_le
  have next := Date.daysBefore_succ (a.date.year + 1)
  have order : Date.daysBefore (a.date.year + 1 + 1) ≤ Date.daysBefore b.date.year :=
    Date.daysBefore_le h
  have long : 365 ≤ daysInYear (a.date.year + 1) := by
    unfold daysInYear
    split <;> omega
  unfold Date.number at last ⊢
  omega

end Calendar

section Writings
variable {s : Subscription} {anchor now now' start : DateTime} {years : Int} {j k : Nat}
  {window window' : Window}

/-! ## Years gone by -/

theorem IsElapsed.of_same (same : now.same now' = true) (h : IsElapsed anchor now k) :
    IsElapsed anchor now' k := by
  rw [DateTime.same_iff] at same
  obtain ⟨start, hstart, past⟩ := h.past
  rw [DateTime.le_iff, same] at past
  refine ⟨⟨start, hstart, past⟩, fun next hnext => ?_⟩
  have ahead := h.ahead next hnext
  rw [DateTime.lt_iff, same] at ahead
  exact ahead

/-- The one year that a moment falls in. -/
theorem elapsed_of_contains (year : yearFrom? anchor k = some window)
    (inside : window.contains now = true) : IsElapsed anchor now k := by
  obtain ⟨hstart, hstop⟩ := yearFrom?_eq_some_iff.mp year
  simp only [Window.contains, Bool.and_eq_true, decide_eq_true_eq] at inside
  refine ⟨⟨_, hstart, inside.1⟩, fun next hnext => ?_⟩
  obtain rfl := Option.some.inj (hstop.symm.trans hnext)
  exact inside.2

theorem samePeriod_refl (p : Option Window) : samePeriod p p = true := by
  simp [samePeriod, sameMoment_refl]

/-- Of the years from a start no two are the same, unless the calendar has neither. -/
theorem eq_of_samePeriod (same : samePeriod (yearFrom? anchor j) (yearFrom? anchor k) = true)
    (there : (yearFrom? anchor k).isSome = true ∨ (yearFrom? anchor j).isSome = true) : j = k := by
  unfold samePeriod at same
  cases hj : yearFrom? anchor j <;> cases hk : yearFrom? anchor k <;> rw [hj, hk] at same there
  · cases there <;> contradiction
  · cases same
  · cases same
  · simp only [Option.map_some, sameMoment, Bool.and_eq_true, DateTime.same_iff] at same
    obtain ⟨hj, -⟩ := yearFrom?_eq_some_iff.mp hj
    obtain ⟨hk, -⟩ := yearFrom?_eq_some_iff.mp hk
    obtain early | rfl | late := Nat.lt_trichotomy j k
    · exact absurd same.1 (Int.ne_of_lt (addYears?_lt hj hk (by omega)))
    · rfl
    · exact absurd same.1.symm (Int.ne_of_lt (addYears?_lt hk hj (by omega)))

/-! ## Years counted -/

/-- At any offsets, the count is at most one year more off than it may be. -/
theorem yearsBetween_near (h : IsElapsed anchor now k) :
    k ≤ yearsBetween anchor now + 1 ∧ yearsBetween anchor now ≤ k + 2 := by
  have bounds := yearsBetween_bounds 1 h (fun _ _ => DateTime.lt_of_year_add_lt)
    fun _ _ => DateTime.lt_of_year_add_lt
  omega

theorem countsRight_of_lt (early : now < anchor) : CountsRight anchor now :=
  fun _ h => absurd (anchor_le_of_elapsed h) (Int.not_le.mpr early)

/-! ## Starts away from the new year -/

theorem AwayFromNewYear.addYears? (away : AwayFromNewYear anchor)
    (h : addYears? anchor years = some start) : AwayFromNewYear start := by
  unfold TenantBilling.addYears? at h
  obtain ⟨date, hdate, rfl⟩ := Option.map_eq_some_iff.mp h
  obtain ⟨-, hmonth, hday⟩ := Date.inYear?_cases hdate
  refine ⟨fun january => ?_, fun december => ?_⟩
  · have first := away.january (hmonth.symm.trans january)
    change 4 ≤ date.day
    omega
  · have last := away.december (hmonth.symm.trans december)
    change date.day ≤ 28
    omega

/-- The fourth day of the year at the earliest, and the fourth from its end at the latest. -/
theorem AwayFromNewYear.ordinal (away : AwayFromNewYear start) :
    4 ≤ start.date.ordinal ∧ start.date.ordinal + 3 ≤ daysInYear start.date.year := by
  obtain ⟨i, days, place, hmonth, first, last, hordinal⟩ := Date.exists_month start.date
  have room := Date.totalDays_take_le place
  rw [Date.totalDays_monthLengths] at room
  have january := away.january
  have december := away.december
  have before : ∀ leap, ∀ i < 12, i ≠ 0 →
      31 ≤ Date.totalDays ((Date.monthLengths leap).take i) := by decide
  have after : ∀ leap, ∀ i < 11, ∀ days ∈ (Date.monthLengths leap)[i]?,
      Date.totalDays ((Date.monthLengths leap).take i) + days + 31 ≤
        Date.totalDays (Date.monthLengths leap) := by decide
  have months : i < 12 := (List.getElem?_eq_some_iff.mp place).1
  constructor
  · by_cases hi : i = 0
    · have day := january (by omega)
      omega
    · have earlier := before (isLeap start.date.year) i months hi
      omega
  · by_cases hi : i = 11
    · subst hi
      have day := december hmonth
      have long : 31 = days := Option.some.inj (place.symm.trans rfl).symm
      omega
    · have later := after (isLeap start.date.year) i (by omega) days place
      rw [Date.totalDays_monthLengths] at later
      omega

theorem countsRight_of_away (away : AwayFromNewYear anchor) : CountsRight anchor now := by
  refine countsRight_of_years (fun k start hstart year => ?_) fun k next hnext year => ?_
  · have ordinal := (away.addYears? hstart).ordinal
    have last := now.date.number_le
    have order : Date.daysBefore (now.date.year + 1) ≤ Date.daysBefore start.date.year :=
      Date.daysBefore_le year
    refine DateTime.lt_of_number_add_lt ?_
    unfold Date.number at last ⊢
    omega
  · have ordinal := (away.addYears? hnext).ordinal
    have first := now.date.ordinal_pos
    have length := Date.daysBefore_succ next.date.year
    have order : Date.daysBefore (next.date.year + 1) ≤ Date.daysBefore now.date.year :=
      Date.daysBefore_le year
    refine DateTime.lt_of_number_add_lt ?_
    unfold Date.number
    omega

/-! ## The year found -/

/-- Before the start the first year is the period, at any offset. -/
theorem annualWindow?_of_early (early : now < anchor) :
    annualWindow? anchor now = yearFrom? anchor 0 := by
  have order : now.year ≤ anchor.year + 1 := Int.not_lt.mp fun late =>
    Int.lt_asymm early (DateTime.lt_of_year_add_lt late)
  have guess : yearsBetween anchor now = (0 : Nat) ∨ yearsBetween anchor now = (1 : Nat) := by
    unfold yearsBetween
    omega
  rcases guess with guess | guess
  · exact annualWindow?_guess guess (addYears?_zero anchor) fun _ => rfl
  · obtain ⟨start, hstart⟩ := exists_guess guess
    have later : anchor < start := addYears?_lt (addYears?_zero anchor) hstart (by omega)
    exact annualWindow?_back guess hstart (Int.lt_trans early later)

/-- A count that is wrong finds the year before or the year after. -/
theorem annualWindow?_of_not_counts (wrong : ¬CountsRight anchor now)
    (h : IsElapsed anchor now k) :
    ∃ j, j ≠ k ∧ annualWindow? anchor now = yearFrom? anchor j ∧
      ((yearFrom? anchor j).isSome = true ∨ (yearFrom? anchor k).isSome = true) := by
  have off : ¬(yearsBetween anchor now = k ∨ yearsBetween anchor now = k + 1) := fun right =>
    wrong fun j hj => h.unique hj ▸ right
  have near := yearsBetween_near h
  have nonneg : 0 ≤ yearsBetween anchor now := Int.le_max_right _ _
  obtain ⟨start, hstart, past⟩ := h.past
  by_cases short : yearsBetween anchor now < k
  · obtain ⟨j, rfl⟩ : ∃ j, k = j + 1 := ⟨k - 1, by omega⟩
    have guess : yearsBetween anchor now = j := by omega
    obtain ⟨last, hlast⟩ := exists_guess guess
    have past' : last ≤ now :=
      Int.le_trans (addYears?_le hlast hstart (by omega)) past
    have year : yearFrom? anchor j = some ⟨last, start⟩ :=
      yearFrom?_eq_some_iff.mpr ⟨hlast, hstart⟩
    refine ⟨j, by omega, ?_, Or.inl (Option.isSome_of_eq_some year)⟩
    exact annualWindow?_guess guess hlast fun early => absurd past' (Int.not_le.mpr early)
  · have guess : yearsBetween anchor now = (k + 1 + 1 : Nat) := by omega
    obtain ⟨far, hfar⟩ := exists_guess guess
    have range : anchor.year + (k + 1 : Nat) ≤ greatestYear := by
      have year := (addYears?_local hfar).1
      have greatest : far.year ≤ greatestYear := far.date.year_le
      omega
    obtain ⟨next, hnext⟩ := exists_anniversary anchor range
    have order : next < far := addYears?_lt hnext hfar (by omega)
    have year : yearFrom? anchor k = some ⟨start, next⟩ :=
      yearFrom?_eq_some_iff.mpr ⟨hstart, hnext⟩
    refine ⟨k + 1, by omega, ?_, Or.inr (Option.isSome_of_eq_some year)⟩
    exact annualWindow?_back guess hfar (Int.lt_trans (h.ahead next hnext) order)

/-- However a moment is written, an annual subscription is at it in the one year that has begun and
not ended, as long as the local years count right; and where they do not, it is said to be in
another year, which does not contain the moment. They count right before the start, at the offset of
the start, and at any offset where the start is three days away from the new year. -/
theorem period_of_instant (annual : s.period = .annual) (starts : s.startDate = some anchor) :
    (∀ now, anchor ≤ now → ∃! k, IsElapsed anchor now k) ∧
      (∀ now now', now.same now' = true → CountsRight anchor now →
        (samePeriod (currentPeriod? s now) (currentPeriod? s now') = true ↔
          CountsRight anchor now')) ∧
      (∀ now window, anchor ≤ now → currentPeriod? s now = some window →
        (window.contains now = true ↔ CountsRight anchor now)) ∧
      (∀ now, now < anchor ∨ now.offset = anchor.offset ∨ AwayFromNewYear anchor →
        CountsRight anchor now) := by
  have found (now : DateTime) : currentPeriod? s now = annualWindow? anchor now := by
    unfold currentPeriod?
    rw [annual, starts]
    rfl
  simp only [found]
  refine ⟨?_, ?_, ?_, ?_⟩
  · intro now begun
    obtain ⟨k, h⟩ := exists_elapsed begun
    exact ⟨k, h, fun j hj => hj.unique h⟩
  · intro now now' same counts
    by_cases begun : anchor ≤ now
    · obtain ⟨k, h⟩ := exists_elapsed begun
      have h' := h.of_same same
      rw [annualWindow?_of_counts counts h]
      constructor
      · intro agree
        refine Classical.byContradiction fun wrong => ?_
        obtain ⟨j, other, hj, there⟩ := annualWindow?_of_not_counts wrong h'
        rw [hj] at agree
        exact other (eq_of_samePeriod agree there).symm
      · intro counts'
        rw [annualWindow?_of_counts counts' h']
        exact samePeriod_refl _
    · have early : now < anchor := Int.not_le.mp begun
      have early' : now' < anchor := by
        rw [DateTime.same_iff] at same
        rw [DateTime.lt_iff] at early ⊢
        omega
      rw [annualWindow?_of_early early, annualWindow?_of_early early']
      exact iff_of_true (samePeriod_refl _) (countsRight_of_lt early')
  · intro now window begun h
    obtain ⟨k, elapsed⟩ := exists_elapsed begun
    constructor
    · intro inside
      refine Classical.byContradiction fun wrong => ?_
      obtain ⟨j, other, hj, -⟩ := annualWindow?_of_not_counts wrong elapsed
      exact other ((elapsed_of_contains (hj.symm.trans h) inside).unique elapsed)
    · intro counts
      exact elapsed.contains ((annualWindow?_of_counts counts elapsed).symm.trans h)
  · rintro now (early | offset | away)
    · exact countsRight_of_lt early
    · exact countsRight_of_offset offset
    · exact countsRight_of_away away

end Writings

/-- A subscription from leap day on is in one period at a new year, in UTC and an hour west. -/
theorem one_period_from_leap_day :
    let s := { Subscription.blank with period := .annual, startDate := some leapNoon }
    let now := newYear 2033 (by decide)
    let now' := newYearWest 2032 (by decide)
    AwayFromNewYear leapNoon ∧ now.same now' = true ∧
      samePeriod (currentPeriod? s now) (currentPeriod? s now') = true ∧
      ∃ window, currentPeriod? s now' = some window ∧ window.contains now' = true := by
  intro s now now'
  have away : AwayFromNewYear leapNoon := ⟨by decide +kernel, by decide +kernel⟩
  have same : now.same now' = true := by decide +kernel
  have begun : leapNoon ≤ now' := by decide +kernel
  obtain ⟨-, agree, inside, counts⟩ := @period_of_instant s leapNoon rfl rfl
  have right := counts now (.inr (.inr away))
  have right' := counts now' (.inr (.inr away))
  obtain ⟨window, current⟩ : ∃ window, currentPeriod? s now' = some window :=
    Option.isSome_iff_exists.mp (by decide +kernel)
  exact ⟨away, same, (agree now now' same right).mpr right', window, current,
    (inside now' window begun current).mpr right'⟩

/-- The first anniversary of a start at a new year, an hour west of it: the year that has just
ended there is still said to be the period, though at the offset of the start it is not. -/
theorem anniversary_missed_west :
    let s := { Subscription.blank with
      period := .annual, startDate := some (newYear 2026 (by decide)) }
    let now := newYear 2027 (by decide)
    let now' := newYearWest 2026 (by decide)
    newYear 2026 (by decide) ≤ now ∧ now.same now' = true ∧
      samePeriod (currentPeriod? s now) (currentPeriod? s now') = false ∧
      ∃ window, currentPeriod? s now' = some window ∧ window.contains now' = false := by
  intro s now now'
  have stale : (currentPeriod? s now').any (fun window => !window.contains now') = true := by
    decide +kernel
  obtain ⟨window, current, outside⟩ := Option.any_eq_true _ _ |>.mp stale
  exact ⟨by decide +kernel, by decide +kernel, by decide +kernel, window, current,
    (Bool.not_eq_true' _).mp outside⟩

end TenantBilling
