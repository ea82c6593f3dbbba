import TenantBilling.Proofs.Retention

/-! What a ledger gives back. After any calls, made at any times, every mark is listed in its hour,
so the sweep that drops the hour comes past it. A sweep whose cutoff is in the calendar ends, drops
nothing that was made after the cutoff, leaves nothing of an hour that was over, and says how much
it dropped. The clock may go back between calls: an event is then marked in an earlier hour than
before, and it is listed there, too. -/

namespace TenantBilling

open Calendar

namespace LedgerDesk
variable {d : LedgerDesk} {ttl : Int}

/-- A plain ledger that can find every mark it has in the hour of the mark. -/
structure Tidy (ttl : Int) (d : LedgerDesk) : Prop where
  plain : d.IsPlain
  life : d.ledger.ttl = ttl
  listed : d.ledger.Listed

theorem Tidy.answer (h : Tidy ttl d) (now : DateTime) (c : LedgerCall) :
    Tidy ttl (d.answer now c).2 := by
  obtain ⟨plain, ledger⟩ := h.plain.answer_ledger now c
  cases c with
  | isMarked id => exact ⟨plain, ledger ▸ h.life, ledger ▸ h.listed⟩
  | mark id => exact ⟨plain, ledger ▸ h.life, ledger ▸ h.listed.mark now id⟩
  | purge =>
    cases sweeping : d.ledger.sweep? now with
    | none =>
      have same : (d.answer now .purge).2.ledger = d.ledger := by
        rw [ledger, sweeping]
        rfl
      exact ⟨plain, same ▸ h.life, same ▸ h.listed⟩
    | some x =>
      have swept : (d.answer now .purge).2.ledger = x.1 := by
        rw [ledger, sweeping]
        rfl
      obtain ⟨cutoff, -, done⟩ := Ledger.swept_of_sweep? sweeping
      exact ⟨plain, swept ▸ done.life.trans h.life, swept ▸ done.listed h.listed⟩

/-- No call, at whatever time, makes a ledger untidy. -/
theorem tidy_after (h : Tidy ttl d) (calls : List (DateTime × LedgerCall)) :
    Tidy ttl (d.after calls) := by
  induction calls generalizing d with
  | nil => exact h
  | cons c calls ih => exact ih (h.answer c.1 c.2)

theorem tidy_new (ttl : Int) (isObserved : Bool) : Tidy ttl (new (.new ttl) isObserved) :=
  ⟨⟨rfl, rfl⟩, rfl, Ledger.listed_new ttl⟩

/-- What a purge answers and leaves when its cutoff is in the calendar. -/
theorem Tidy.purge (h : Tidy ttl d) {now cutoff : DateTime}
    (inRange : now.add? (-ttl) = some cutoff) :
    ∃ removed, (d.answer now .purge).1 = .ok removed ∧
      Ledger.Swept cutoff 0 d.ledger ((d.answer now .purge).2.ledger, removed) := by
  have hcutoff : d.ledger.cutoff? now = some cutoff := by
    unfold Ledger.cutoff?
    rw [h.life, inRange]
  obtain ⟨swept, removed, hsweep, sweeping⟩ := Ledger.exists_sweep? hcutoff
  obtain ⟨-, ledger⟩ := h.plain.answer_ledger now .purge
  have left : (d.answer now .purge).2.ledger = swept := by
    rw [ledger, hsweep]
    rfl
  refine ⟨removed, ?_, left ▸ sweeping⟩
  rw [answer_eq, h.plain.outages, Outages.strike_none, if_neg Bool.false_ne_true]
  unfold reply
  dsimp only [count]
  rw [hsweep]

/-- After any calls at any times every mark has its event listed in the hour it fell in, and a
sweep whose cutoff is in the calendar comes to its end: it says by how many marks there are less,
it drops only marks from before the cutoff, and neither an hour nor a mark is left of an hour that
was over at the whole second of the cutoff. -/
theorem sweeps_leak_nothing (ttl : Int) (isObserved : Bool)
    (calls : List (DateTime × LedgerCall)) :
    let d := (new (.new ttl) isObserved).after calls
    (∀ id m, d.ledger.entries.get? id = some m →
        ∃ ids, d.ledger.buckets.get? (m.unix / 3600) = some ids ∧ id ∈ ids) ∧
      ∀ now cutoff, now.add? (-ttl) = some cutoff →
        let swept := (d.answer now .purge).2.ledger
        ∃ removed, (d.answer now .purge).1 = .ok removed ∧
          removed + swept.size = d.ledger.size ∧
          (∀ id m, swept.entries.get? id = some m → d.ledger.entries.get? id = some m) ∧
          (∀ id m, d.ledger.entries.get? id = some m → swept.entries.get? id = none →
            m ≤ cutoff) ∧
          (∀ hour ids, swept.buckets.get? hour = some ids → cutoff.unix < (hour + 1) * 3600) ∧
          (∀ id m, swept.entries.get? id = some m → cutoff.unix < (m.unix / 3600 + 1) * 3600) := by
  intro d
  have tidy : Tidy ttl d := tidy_after (tidy_new ttl isObserved) calls
  refine ⟨tidy.listed, fun now cutoff inRange => ?_⟩
  intro swept
  obtain ⟨removed, answered, sweeping⟩ := tidy.purge inRange
  have hours (hour : Int) (ids : List String) (h : swept.buckets.get? hour = some ids) :
      cutoff.unix < (hour + 1) * 3600 := by
    have notDue := sweeping.hours hour ids h
    rw [← Bool.not_eq_true, Ledger.isDue_iff] at notDue
    exact Int.not_le.mp notDue
  refine ⟨removed, answered, ?_, sweeping.pruned.kept, sweeping.pruned.expired, hours, ?_⟩
  · exact sweeping.pruned.count.trans (Nat.zero_add _)
  · intro id m h
    obtain ⟨ids, listing, -⟩ := sweeping.listed tidy.listed id m h
    exact hours _ ids listing

/-- An event is marked an hour and a half into a day and then, the clock having gone back, at its
very beginning, and another one after it. A sweep that takes the first hour gives both marks back,
though the first event is listed in the second hour, too. -/
theorem given_back_after_setback :
    let midnight := newYear 2024 (by decide)
    let later := { midnight with second := 5400, second_lt := by decide }
    let sweeping := { midnight with second := 11400, second_lt := by decide }
    let d := (new (.new 7200000000000) false).after
      [(later, .mark "evt_1"), (midnight, .mark "evt_1"), (midnight, .mark "evt_2")]
    (sweeping.add? (-7200000000000)).isSome ∧ d.ledger.size = 2 ∧
      (d.answer sweeping .purge).1 = .ok 2 ∧
      ∀ id, (d.answer sweeping .purge).2.ledger.entries.get? id = none := by
  intro midnight later sweeping d
  have size : d.ledger.size = 2 := by decide
  have early : ∀ e ∈ d.ledger.entries.entries, e.2.unix / 3600 = midnight.unix / 3600 := by decide
  obtain ⟨cutoff, hcutoff⟩ : ∃ cutoff, sweeping.add? (-7200000000000) = some cutoff :=
    Option.isSome_iff_exists.mp (by decide +kernel)
  have bound : cutoff.unix = sweeping.unix - 7200 := by
    rw [DateTime.unix_eq_instant_div, DateTime.instant_add? hcutoff]
    decide
  have start : (new (.new 7200000000000) false).after
      [(later, .mark "evt_1"), (midnight, .mark "evt_1"), (midnight, .mark "evt_2")] = d := rfl
  have told := (sweeps_leak_nothing 7200000000000 false
    [(later, .mark "evt_1"), (midnight, .mark "evt_1"), (midnight, .mark "evt_2")]).2
    sweeping cutoff hcutoff
  rw [start] at told
  obtain ⟨removed, answered, count, kept, -, -, late⟩ := told
  have gone (id : String) : (d.answer sweeping .purge).2.ledger.entries.get? id = none := by
    cases left : (d.answer sweeping .purge).2.ledger.entries.get? id with
    | none => rfl
    | some m =>
      have first := early _ ((Table.mem_entries_iff d.ledger.entries id m).mpr (kept id m left))
      have after := late id m left
      rw [bound, first] at after
      exact absurd after (by decide)
  have empty : (d.answer sweeping .purge).2.ledger.size = 0 := Table.size_eq_zero gone
  refine ⟨Option.isSome_iff_exists.mpr ⟨cutoff, hcutoff⟩, size, ?_, gone⟩
  have two : removed = 2 := by
    have all := count.trans size
    rw [empty] at all
    exact all
  exact two ▸ answered

end LedgerDesk

end TenantBilling
