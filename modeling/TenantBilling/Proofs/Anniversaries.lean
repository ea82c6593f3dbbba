import Mathlib.Logic.ExistsUnique
import TenantBilling.Proofs.Dates
import TenantBilling.Proofs.History

/-! The anniversaries of a start, and the years between them. A moment has its like in every year
of the calendar, and there but for a 29 February it has all but its year, so of two years the later
one has the later moment. The current period of an annual subscription is found by one guess and
one step back; here it is shown to be the only year that has begun and not ended, so that the years
follow each other without a gap or an overlap up to the end of the calendar. -/

namespace TenantBilling

open Calendar

/-- So many whole years have gone by at `now`: their last anniversary has come, and the one after
it, if the calendar has it, has not. -/
structure IsElapsed (anchor now : DateTime) (k : Nat) : Prop where
  past : ∃ start, addYears? anchor k = some start ∧ start ≤ now
  ahead : ∀ next, addYears? anchor (k + 1) = some next → now < next

/-- The year that begins with an anniversary and ends with the next one. -/
def yearFrom? (anchor : DateTime) (k : Nat) : Option Window := do
  pure ⟨← addYears? anchor k, ← addYears? anchor (k + 1)⟩

/-- The local years tell how many years have gone by, or one year more while the anniversary of
that year is still to come. Before the start there is nothing to tell. -/
def CountsRight (anchor now : DateTime) : Prop :=
  ∀ k, IsElapsed anchor now k → yearsBetween anchor now = k ∨ yearsBetween anchor now = k + 1

/-- Noon of 29 February 2028. -/
def leapNoon : DateTime := { newYear 2028 (by decide) with
  date := ⟨2028, 60, by decide, by decide, by decide, by decide⟩
  second := 43200
  second_lt := by decide }

section Anniversaries
variable {s : Subscription} {anchor now now' start next t t' : DateTime} {years : Int}
  {j k : Nat} {window window' : Window}

/-! ## Anniversaries -/

theorem addYears?_zero (t : DateTime) : addYears? t 0 = some t := by
  unfold addYears? DateTime.year
  rw [Int.add_zero, Date.inYear?_self]
  rfl

theorem addYears?_eq_none_iff :
    addYears? t years = none ↔ t.year + years < leastYear ∨ greatestYear < t.year + years := by
  unfold addYears?
  rw [Option.map_eq_none_iff, Date.inYear?_eq_none_iff]

/-- The calendar lacks the anniversaries after its last year, and no others. -/
theorem anniversary_eq_none_iff (anchor : DateTime) (k : Nat) :
    addYears? anchor k = none ↔ greatestYear < anchor.year + k := by
  have least : leastYear ≤ anchor.year := anchor.date.year_ge
  rw [addYears?_eq_none_iff]
  omega

theorem exists_anniversary (anchor : DateTime) (h : anchor.year + k ≤ greatestYear) :
    ∃ start, addYears? anchor k = some start := by
  refine Option.ne_none_iff_exists'.mp fun absent => ?_
  have range := (anniversary_eq_none_iff anchor k).mp absent
  omega

/-- What a moment keeps in another year: all but the year, and the day when that year lacks it. -/
theorem addYears?_fields (h : addYears? t years = some t') :
    t'.year = t.year + years ∧ t'.date.month = t.date.month ∧
      t'.date.day = (if t.date.month = 2 ∧ t.date.day = 29 ∧ isLeap t'.year = false then 28
        else t.date.day) ∧
      t'.second = t.second ∧ t'.nano = t.nano ∧ t'.offset = t.offset := by
  unfold addYears? at h
  obtain ⟨date, hdate, rfl⟩ := Option.map_eq_some_iff.mp h
  obtain ⟨hyear, hmonth, -⟩ := Date.inYear?_cases hdate
  have year : (t.onDate date).year = t.year + years := hyear
  rw [year]
  exact ⟨rfl, hmonth, Date.day_inYear? hdate, rfl, rfl, rfl⟩

theorem addYears?_local (h : addYears? t years = some t') :
    t'.year = t.year + years ∧ t'.offset = t.offset := by
  obtain ⟨year, -, -, -, -, offset⟩ := addYears?_fields h
  exact ⟨year, offset⟩

/-- A moment can be moved to every year of the calendar and to no other, and there it has its
month, its time of day and its offset, and its day unless it is a 29 February that the year lacks;
no years move nothing, and of two numbers of years the greater leads to the later moment. -/
theorem addYears?_exact (t : DateTime) :
    (∀ years, (∃ t', addYears? t years = some t') ↔
        -9999 ≤ t.year + years ∧ t.year + years ≤ 9999) ∧
      (∀ years t', addYears? t years = some t' →
        t'.year = t.year + years ∧ t'.date.month = t.date.month ∧
          t'.date.day = (if t.date.month = 2 ∧ t.date.day = 29 ∧ isLeap t'.year = false then 28
            else t.date.day) ∧
          t'.second = t.second ∧ t'.nano = t.nano ∧ t'.offset = t.offset) ∧
      addYears? t 0 = some t ∧
      ∀ years years' t' t'', addYears? t years = some t' → addYears? t years' = some t'' →
        years < years' → t' < t'' := by
  refine ⟨fun years => ?_, fun years t' => addYears?_fields, addYears?_zero t,
    fun years years' t' t'' => addYears?_lt⟩
  rw [← Option.ne_none_iff_exists', Ne, addYears?_eq_none_iff]
  unfold leastYear greatestYear
  omega

/-- Noon of 29 February 2028 is noon of 28 February in 1900, which was no leap year. -/
theorem leap_noon_in_1900 : ∃ t', addYears? leapNoon (-128) = some t' ∧
    t'.year = 1900 ∧ t'.date.month = 2 ∧ t'.date.day = 28 ∧ t'.second = 43200 ∧ t' < leapNoon := by
  obtain ⟨exists_iff, fields, zero, increasing⟩ := addYears?_exact leapNoon
  obtain ⟨t', h⟩ := (exists_iff (-128)).mpr (by decide)
  obtain ⟨year, month, day, second, -, -⟩ := fields (-128) t' h
  have in_1900 : t'.year = 1900 := year.trans (by decide)
  have february : leapNoon.date.month = 2 ∧ leapNoon.date.day = 29 := by decide +kernel
  have common : isLeap t'.year = false := by
    rw [in_1900]
    decide
  rw [if_pos ⟨february.1, february.2, common⟩] at day
  exact ⟨t', h, in_1900, month.trans february.1, day, second,
    increasing (-128) 0 t' leapNoon h zero (by decide)⟩

/-! ## Years -/

theorem yearFrom?_eq_some_iff : yearFrom? anchor k = some window ↔
    addYears? anchor k = some window.start ∧ addYears? anchor (k + 1) = some window.stop := by
  obtain ⟨start, stop⟩ := window
  unfold yearFrom?
  cases addYears? anchor k <;> cases addYears? anchor (k + 1) <;> simp

theorem yearFrom?_eq_none_iff :
    yearFrom? anchor k = none ↔ greatestYear < anchor.year + k + 1 := by
  have starts := anniversary_eq_none_iff anchor k
  have stops := anniversary_eq_none_iff anchor (k + 1)
  push_cast at stops
  unfold yearFrom?
  cases hstart : addYears? anchor k with
  | none =>
    have late := starts.mp hstart
    exact iff_of_true rfl (by omega)
  | some start =>
    rw [← Int.add_assoc] at stops
    rw [← stops]
    cases addYears? anchor (k + 1) <;> simp

/-- A year that has begun is over once a later one has begun. -/
theorem IsElapsed.le (h : IsElapsed anchor now j) (h' : IsElapsed anchor now k) : k ≤ j := by
  obtain ⟨start, hstart, begun⟩ := h'.past
  refine Nat.not_lt.mp fun later => ?_
  have range : anchor.year + (j + 1 : Nat) ≤ greatestYear := by
    have greatest : start.year ≤ greatestYear := start.date.year_le
    have year := (addYears?_local hstart).1
    omega
  obtain ⟨next, hnext⟩ := exists_anniversary anchor range
  have ahead : now < next := h.ahead next hnext
  have order : next ≤ start := addYears?_le hnext hstart (by omega)
  exact Int.not_le.mpr ahead (Int.le_trans order begun)

theorem IsElapsed.unique (h : IsElapsed anchor now j) (h' : IsElapsed anchor now k) : j = k :=
  Nat.le_antisymm (h'.le h) (h.le h')

theorem anchor_le_of_elapsed (h : IsElapsed anchor now k) : anchor ≤ now := by
  obtain ⟨start, hstart, past⟩ := h.past
  exact Int.le_trans (addYears?_le (addYears?_zero anchor) hstart (by omega)) past

/-- From the start on some number of years have gone by, since the calendar ends. -/
theorem exists_elapsed (begun : anchor ≤ now) : ∃ k, IsElapsed anchor now k := by
  let Begun (k : Nat) : Prop := ∃ start, addYears? anchor k = some start ∧ start ≤ now
  have last : ∃ k, Begun k ∧ ¬Begun (k + 1) := by
    refine Classical.byContradiction fun never => ?_
    have always (k : Nat) : Begun k := by
      induction k with
      | zero => exact ⟨anchor, addYears?_zero anchor, begun⟩
      | succ k ih => exact Classical.byContradiction fun h => never ⟨k, ih, h⟩
    obtain ⟨start, hstart, -⟩ := always (20000 : Nat)
    have least : leastYear ≤ anchor.year := anchor.date.year_ge
    have past := (anniversary_eq_none_iff anchor 20000).mpr (by
      unfold leastYear at least
      unfold greatestYear
      omega)
    rw [past] at hstart
    cases hstart
  obtain ⟨k, past, ahead⟩ := last
  exact ⟨k, past, fun next hnext => Int.not_le.mp fun h => ahead ⟨next, hnext, h⟩⟩

/-! ## Years counted -/

theorem exists_guess (guess : yearsBetween anchor now = k) :
    ∃ start, addYears? anchor k = some start := by
  have greatest : now.year ≤ greatestYear := now.date.year_le
  have greatest' : anchor.year ≤ greatestYear := anchor.date.year_le
  unfold yearsBetween at guess
  exact exists_anniversary anchor (by omega)

/-- What years say about moments, the count says about years gone by; `slack` is how many years
apart they have to be to say it. -/
theorem yearsBetween_bounds (slack : Nat) (h : IsElapsed anchor now k)
    (earlier : ∀ start, addYears? anchor k = some start → now.year + slack < start.year →
      now < start)
    (later : ∀ next, addYears? anchor (k + 1) = some next → next.year + slack < now.year →
      next < now) :
    k ≤ yearsBetween anchor now + slack ∧ yearsBetween anchor now ≤ k + 1 + slack := by
  obtain ⟨start, hstart, past⟩ := h.past
  have begun : start.year ≤ now.year + slack := Int.not_lt.mp fun early =>
    Int.not_le.mpr (earlier start hstart early) past
  have ends : now.year ≤ anchor.year + (k + 1) + slack := by
    by_cases range : anchor.year + (k + 1 : Nat) ≤ greatestYear
    · obtain ⟨next, hnext⟩ := exists_anniversary anchor range
      have year := (addYears?_local hnext).1
      have ahead := h.ahead next hnext
      refine Int.not_lt.mp fun late => Int.lt_asymm ahead (later next hnext ?_)
      omega
    · have greatest : now.year ≤ greatestYear := now.date.year_le
      omega
  have year := (addYears?_local hstart).1
  unfold yearsBetween
  omega

theorem countsRight_of_years
    (earlier : ∀ (k : Nat) start, addYears? anchor k = some start → now.year < start.year →
      now < start)
    (later : ∀ (k : Nat) next, addYears? anchor k = some next → next.year < now.year →
      next < now) : CountsRight anchor now := by
  intro k h
  have bounds := yearsBetween_bounds 0 h
    (fun start hstart year => earlier k start hstart (by omega))
    fun next hnext year => later (k + 1 : Nat) next hnext (by omega)
  omega

theorem countsRight_of_offset (offset : now.offset = anchor.offset) : CountsRight anchor now :=
  countsRight_of_years
    (fun _ _ hstart => DateTime.lt_of_year_lt (offset.trans (addYears?_local hstart).2.symm))
    fun _ _ hnext => DateTime.lt_of_year_lt ((addYears?_local hnext).2.trans offset.symm)

/-! ## The period found -/

theorem annualWindow?_guess (guess : yearsBetween anchor now = k)
    (hstart : addYears? anchor k = some start) (kept : now < start → k = 0) :
    annualWindow? anchor now = yearFrom? anchor k := by
  have stays : ¬(now < start ∧ (0 : Int) < k) := fun back => by
    have first := kept back.1
    omega
  unfold annualWindow? yearFrom?
  simp only [guess, hstart, Option.bind_eq_bind, Option.bind_some, if_neg stays]

theorem annualWindow?_back (guess : yearsBetween anchor now = (k + 1 : Nat))
    (hstart : addYears? anchor (k + 1 : Nat) = some start) (early : now < start) :
    annualWindow? anchor now = yearFrom? anchor k := by
  have back : now < start ∧ (0 : Int) < (k + 1 : Nat) := ⟨early, by omega⟩
  have previous : ((k + 1 : Nat) : Int) - 1 = k := by omega
  have hstop : addYears? anchor (k + 1) = some start := hstart
  unfold annualWindow? yearFrom?
  simp only [guess, hstart, hstop, Option.bind_eq_bind, Option.bind_some, if_pos back, previous]

/-- Before the start, the first year is the period. -/
theorem annualWindow?_of_lt (offset : now.offset = anchor.offset) (early : now < anchor) :
    annualWindow? anchor now = yearFrom? anchor 0 := by
  have order : now.year ≤ anchor.year := DateTime.year_le offset (Int.le_of_lt early)
  refine annualWindow?_guess ?_ (addYears?_zero anchor) fun _ => rfl
  unfold yearsBetween
  omega

theorem annualWindow?_of_counts (counts : CountsRight anchor now) (h : IsElapsed anchor now k) :
    annualWindow? anchor now = yearFrom? anchor k := by
  rcases counts k h with guess | guess
  · obtain ⟨start, hstart, past⟩ := h.past
    exact annualWindow?_guess guess hstart fun early => absurd past (Int.not_le.mpr early)
  · obtain ⟨next, hnext⟩ := exists_guess (k := k + 1) guess
    exact annualWindow?_back guess hnext (h.ahead next hnext)

theorem annualWindow?_of_elapsed (offset : now.offset = anchor.offset)
    (h : IsElapsed anchor now k) : annualWindow? anchor now = yearFrom? anchor k :=
  annualWindow?_of_counts (countsRight_of_offset offset) h

/-- The period around a moment is one of the years from the start. -/
theorem exists_year (offset : now.offset = anchor.offset)
    (h : annualWindow? anchor now = some window) : ∃ k, yearFrom? anchor k = some window := by
  by_cases begun : anchor ≤ now
  · obtain ⟨k, elapsed⟩ := exists_elapsed begun
    exact ⟨k, (annualWindow?_of_elapsed offset elapsed).symm.trans h⟩
  · exact ⟨0, (annualWindow?_of_lt offset (Int.not_le.mp begun)).symm.trans h⟩

theorem IsElapsed.contains (h : IsElapsed anchor now k)
    (year : yearFrom? anchor k = some window) : window.contains now = true := by
  obtain ⟨hstart, hstop⟩ := yearFrom?_eq_some_iff.mp year
  obtain ⟨start, hstart', past⟩ := h.past
  obtain rfl := Option.some.inj (hstart.symm.trans hstart')
  simp [Window.contains, past, h.ahead _ hstop]

/-- A year that comes first is over when the other one begins. -/
theorem disjoint_of_lt (h : yearFrom? anchor j = some window)
    (h' : yearFrom? anchor k = some window') (order : j < k) (t : DateTime) :
    ¬(window.contains t = true ∧ window'.contains t = true) := by
  obtain ⟨-, hstop⟩ := yearFrom?_eq_some_iff.mp h
  obtain ⟨hstart', -⟩ := yearFrom?_eq_some_iff.mp h'
  have apart : window.stop ≤ window'.start := addYears?_le hstop hstart' (by omega)
  simp only [Window.contains, Bool.and_eq_true, decide_eq_true_eq]
  rintro ⟨⟨-, before⟩, after, -⟩
  exact Int.not_le.mpr before (Int.le_trans apart after)

theorem eq_or_disjoint (h : yearFrom? anchor j = some window)
    (h' : yearFrom? anchor k = some window') : window = window' ∨
      ∀ t, ¬(window.contains t = true ∧ window'.contains t = true) := by
  obtain order | rfl | order := Nat.lt_trichotomy j k
  · exact Or.inr (disjoint_of_lt h h' order)
  · exact Or.inl (Option.some.inj (h.symm.trans h'))
  · exact Or.inr fun t both => disjoint_of_lt h' h order t both.symm

/-- When a year ends the next one begins. -/
theorem elapsed_stop (year : yearFrom? anchor k = some window) :
    IsElapsed anchor window.stop (k + 1) := by
  obtain ⟨-, hstop⟩ := yearFrom?_eq_some_iff.mp year
  exact ⟨⟨_, hstop, Int.le_refl _⟩, fun next hnext => addYears?_lt hstop hnext (by omega)⟩

/-- A 29 February comes back in leap years, and is a 28 February in the others. -/
theorem addYears?_leap_day (february : t.date.month = 2) (last : t.date.day = 29)
    (h : addYears? t years = some t') : t'.date.month = 2 ∧
      t'.date.day = if isLeap t'.year then 29 else 28 := by
  obtain ⟨-, month, day, -⟩ := addYears?_fields h
  refine ⟨month.trans february, ?_⟩
  rw [day]
  cases isLeap t'.year <;> simp [february, last]

/-- A subscription that starts at `anchor` is at any moment in the one year that has begun and not
ended, or in its first year where none has begun; and so the periods of any two moments are one
period or apart, the end of a period begins the next, and a start on 29 February comes back in leap
years. -/
theorem annual_period_unique (annual : s.period = .annual) (starts : s.startDate = some anchor) :
    addYears? anchor 0 = some anchor ∧
      (∀ now, now.offset = anchor.offset → anchor ≤ now →
        ∃! k, IsElapsed anchor now k) ∧
      (∀ now k, now.offset = anchor.offset → IsElapsed anchor now k →
        currentPeriod? s now = yearFrom? anchor k ∧
          (currentPeriod? s now = none ↔ 9999 < anchor.year + k + 1) ∧
          ∀ window, currentPeriod? s now = some window → window.contains now = true) ∧
      (∀ now, now.offset = anchor.offset → now < anchor →
        currentPeriod? s now = yearFrom? anchor 0 ∧
          (currentPeriod? s now = none ↔ addYears? anchor 1 = none)) ∧
      (∀ now now' window window', now.offset = anchor.offset → now'.offset = anchor.offset →
        currentPeriod? s now = some window → currentPeriod? s now' = some window' →
          window = window' ∨
            ∀ t, ¬(window.contains t = true ∧ window'.contains t = true)) ∧
      (∀ now window next, now.offset = anchor.offset → currentPeriod? s now = some window →
        currentPeriod? s window.stop = some next → next.start = window.stop) ∧
      (anchor.date.month = 2 → anchor.date.day = 29 → ∀ now window, now.offset = anchor.offset →
        currentPeriod? s now = some window → window.start.date.month = 2 ∧
          window.start.date.day = if isLeap window.start.year then 29 else 28) := by
  have found (now : DateTime) : currentPeriod? s now = annualWindow? anchor now := by
    unfold currentPeriod?
    rw [annual, starts]
    rfl
  simp only [found]
  refine ⟨addYears?_zero anchor, ?_, ?_, ?_, ?_, ?_, ?_⟩
  · intro now offset begun
    obtain ⟨k, hk⟩ := exists_elapsed begun
    exact ⟨k, hk, fun j hj => hj.unique hk⟩
  · intro now k offset elapsed
    rw [annualWindow?_of_elapsed offset elapsed]
    exact ⟨rfl, yearFrom?_eq_none_iff, fun window year => elapsed.contains year⟩
  · intro now offset early
    rw [annualWindow?_of_lt offset early]
    have last : greatestYear < anchor.year + (0 : Nat) + 1 ↔ addYears? anchor 1 = none :=
      Iff.trans (by omega) (anniversary_eq_none_iff anchor 1).symm
    exact ⟨rfl, yearFrom?_eq_none_iff.trans last⟩
  · intro now now' window window' offset offset' h h'
    obtain ⟨j, year⟩ := exists_year offset h
    obtain ⟨k, year'⟩ := exists_year offset' h'
    exact eq_or_disjoint year year'
  · intro now window next offset h hnext
    obtain ⟨k, year⟩ := exists_year offset h
    obtain ⟨-, hstop⟩ := yearFrom?_eq_some_iff.mp year
    rw [annualWindow?_of_elapsed (addYears?_local hstop).2 (elapsed_stop year)] at hnext
    obtain ⟨hstart, -⟩ := yearFrom?_eq_some_iff.mp hnext
    exact Option.some.inj (hstart.symm.trans hstop)
  · intro february last now window offset h
    obtain ⟨k, year⟩ := exists_year offset h
    exact addYears?_leap_day february last (yearFrom?_eq_some_iff.mp year).1

end Anniversaries

/-- At the beginning of 2033 the fifth year since is not over, and it began on 29 February. -/
theorem fifth_year_from_leap_day :
    let s := { Subscription.blank with period := .annual, startDate := some leapNoon }
    let now := newYear 2033 (by decide)
    ∃ window, currentPeriod? s now = some window ∧ window.contains now = true ∧
      window.start.date.month = 2 ∧ window.start.date.day = 29 ∧
      ∃! k, IsElapsed leapNoon now k := by
  intro s now
  obtain ⟨-, unique, current, -, -, -, leap⟩ :=
    @annual_period_unique s leapNoon rfl rfl
  have year : ∃ window, yearFrom? leapNoon 4 = some window ∧ window.start ≤ now ∧
      now < window.stop ∧ isLeap window.start.year = true :=
    ⟨⟨⟨⟨2032, 60, by decide, by decide, by decide, by decide⟩, 43200, 0, .utc,
        by decide, by decide⟩,
      ⟨⟨2033, 59, by decide, by decide, by decide, by decide⟩, 43200, 0, .utc,
        by decide, by decide⟩⟩,
      by decide +kernel⟩
  obtain ⟨window, year, past, ahead, leapYear⟩ := year
  obtain ⟨hstart, hstop⟩ := yearFrom?_eq_some_iff.mp year
  have elapsed : IsElapsed leapNoon now 4 :=
    ⟨⟨_, hstart, past⟩, fun next hnext => Option.some.inj (hstop.symm.trans hnext) ▸ ahead⟩
  obtain ⟨found, -, contains⟩ := current now 4 rfl elapsed
  have answer := found.trans year
  obtain ⟨month, day⟩ := leap (by decide +kernel) (by decide +kernel) now window rfl answer
  rw [if_pos leapYear] at day
  exact ⟨window, answer, contains window answer, month, day, unique now rfl (by decide +kernel)⟩

end TenantBilling
