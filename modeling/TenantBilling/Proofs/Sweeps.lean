import TenantBilling.Ledger

/-! Sweeps, hour by hour. Every mark has its event listed in the hour it fell in. A sweep takes the
hours that are over, and with an hour it drops the marks of its events that were over at the cutoff,
and counts them. Whoever is listed there and keeps a mark was marked again in an hour that the sweep
leaves alone, so what is left is listed again. -/

namespace TenantBilling.Ledger

open Calendar

variable {cutoff : DateTime} {s t u : Table String DateTime × Nat} {id : String} {m : DateTime}

/-! ## Dropping marks -/

/-- A stretch of a sweep: marks are dropped and counted, and only those over at the cutoff. -/
structure Pruned (cutoff : DateTime) (s t : Table String DateTime × Nat) : Prop where
  count : t.2 + t.1.size = s.2 + s.1.size
  kept : ∀ id m, t.1.get? id = some m → s.1.get? id = some m
  expired : ∀ id m, s.1.get? id = some m → t.1.get? id = none → m ≤ cutoff

theorem Pruned.refl (cutoff : DateTime) (s : Table String DateTime × Nat) : Pruned cutoff s s where
  count := rfl
  kept _ _ h := h
  expired id m h gone := by
    rw [h] at gone
    cases gone

theorem Pruned.trans (h : Pruned cutoff s t) (h' : Pruned cutoff t u) : Pruned cutoff s u where
  count := h'.count.trans h.count
  kept id m hm := h.kept id m (h'.kept id m hm)
  expired id m hm gone := by
    cases between : t.1.get? id with
    | none => exact h.expired id m hm between
    | some n =>
      have same : n = m := Option.some.inj ((h.kept id n between).symm.trans hm)
      exact h'.expired id m (same ▸ between) gone

theorem pruned_expire (cutoff : DateTime) (s : Table String DateTime × Nat) (id : String) :
    Pruned cutoff s (expire cutoff s id) := by
  unfold expire
  split
  · exact .refl cutoff s
  · rename_i marked hmarked
    split
    · rename_i expired
      refine ⟨?_, fun other m hm => ?_, fun other m hm gone => ?_⟩
      · have one := s.1.size_erase hmarked
        dsimp only
        omega
      · by_cases same : other = id
        · rw [same, Table.get?_erase_self] at hm
          cases hm
        · rwa [Table.get?_erase_of_ne _ same] at hm
      · by_cases same : other = id
        · rw [same, hmarked] at hm
          exact Option.some.inj hm ▸ expired
        · rw [Table.get?_erase_of_ne _ same, hm] at gone
          cases gone
    · exact .refl cutoff s

/-- A mark that is left of an event after its turn was made after the cutoff. -/
theorem lt_of_get?_expire (h : (expire cutoff s id).1.get? id = some m) : cutoff < m := by
  unfold expire at h
  split at h
  · rename_i none_there
    rw [none_there] at h
    cases h
  · rename_i marked hmarked
    split at h
    · rw [Table.get?_erase_self] at h
      cases h
    · rename_i late
      rw [hmarked] at h
      have same := Option.some.inj h
      rw [DateTime.le_iff, same] at late
      rw [DateTime.lt_iff]
      omega

theorem pruned_foldl (cutoff : DateTime) (ids : List String) (s : Table String DateTime × Nat) :
    Pruned cutoff s (ids.foldl (expire cutoff) s) := by
  induction ids generalizing s with
  | nil => exact .refl cutoff s
  | cons id ids ih => exact (pruned_expire cutoff s id).trans (ih _)

theorem lt_of_get?_foldl {ids : List String} (listed : id ∈ ids)
    (h : (ids.foldl (expire cutoff) s).1.get? id = some m) : cutoff < m := by
  induction ids generalizing s with
  | nil => cases listed
  | cons other ids ih =>
    rcases List.mem_cons.mp listed with rfl | listed
    · exact lt_of_get?_expire ((pruned_foldl cutoff ids _).kept id m h)
    · exact ih listed h

/-! ## Listed marks -/

/-- Every mark has its event listed in the hour the mark fell in. -/
def Listed (l : Ledger) : Prop :=
  ∀ id m, l.entries.get? id = some m → ∃ ids, l.buckets.get? (hourOf m) = some ids ∧ id ∈ ids

theorem listed_new (ttl : Int) : (new ttl).Listed := by
  intro id m h
  cases h

/-- The new mark is listed behind whoever is listed in its hour, in whatever hour an earlier one of
the same event is. -/
theorem Listed.mark {l : Ledger} (h : l.Listed) (now : DateTime) (id : String) :
    (l.mark now id).Listed := by
  intro other m hm
  have buckets (hour : Int) : (l.mark now id).buckets.get? hour =
      if hour = hourOf now then some ((l.buckets.get? (hourOf now)).getD [] ++ [id])
      else l.buckets.get? hour := Table.get?_insert l.buckets (hourOf now) hour _
  rw [buckets]
  have entries : (if other = id then some now else l.entries.get? other) = some m :=
    (Table.get?_insert l.entries id other now).symm.trans hm
  split at entries
  · rename_i same
    cases entries
    exact ⟨_, if_pos rfl, by simp [same]⟩
  · obtain ⟨ids, hids, mem⟩ := h other m entries
    split
    · rename_i hour
      rw [hour] at hids
      exact ⟨_, rfl, by simp [hids, mem]⟩
    · exact ⟨ids, hids, mem⟩

/-- What fell in an hour that is over at the cutoff was over at the cutoff. -/
theorem le_of_isDue (h : isDue cutoff (hourOf m) = true) : m ≤ cutoff := by
  have fraction := m.nano_lt
  rw [isDue_iff] at h
  rw [DateTime.le_iff]
  simp only [hourOf, secondsPerHour] at h
  simp only [DateTime.instant, nanosPerSecond]
  omega

variable {l : Ledger} {hour : Int} {ids : List String}

/-- An hour that is over is dropped. Who is listed in it and keeps a mark was marked again since,
so in another hour. -/
theorem Listed.drop (h : l.Listed) (first : l.buckets.get? hour = some ids)
    (due : isDue cutoff hour = true) (removed : Nat) :
    Listed { l with
      entries := (ids.foldl (expire cutoff) (l.entries, removed)).1
      buckets := l.buckets.erase hour } := by
  intro id m hm
  obtain ⟨listing, hlisting, mem⟩ := h id m ((pruned_foldl cutoff ids _).kept id m hm)
  have elsewhere : hourOf m ≠ hour := by
    intro same
    have listed : id ∈ ids := by
      rw [same, first] at hlisting
      exact Option.some.inj hlisting ▸ mem
    have late := lt_of_get?_foldl listed hm
    have expired : m ≤ cutoff := le_of_isDue (same ▸ due)
    rw [DateTime.lt_iff] at late
    rw [DateTime.le_iff] at expired
    omega
  exact ⟨listing, (Table.get?_erase_of_ne _ elsewhere).trans hlisting, mem⟩

/-! ## Whole sweeps -/

/-- What a sweep makes of a ledger, and how many marks it says it dropped. -/
structure Swept (cutoff : DateTime) (removed : Nat) (l : Ledger) (r : Ledger × Nat) : Prop where
  life : r.1.ttl = l.ttl
  pruned : Pruned cutoff (l.entries, removed) (r.1.entries, r.2)
  listed : l.Listed → r.1.Listed
  /-- No hour is left that was over at the cutoff. -/
  hours : ∀ hour ids, r.1.buckets.get? hour = some ids → isDue cutoff hour = false

/-- An hour is not over when an earlier one is not. -/
theorem isDue_of_le {earlier later : Int} (h : isDue cutoff earlier = false)
    (order : earlier ≤ later) : isDue cutoff later = false := by
  rw [← Bool.not_eq_true, isDue_iff] at h ⊢
  omega

/-- The induction goes down the hours that are left. -/
theorem swept_sweepFrom (cutoff : DateTime) (l : Ledger) (removed : Nat) :
    Swept cutoff removed l (l.sweepFrom cutoff removed) := by
  fun_induction sweepFrom cutoff l removed with
  | case1 l removed first =>
    refine ⟨rfl, .refl _ _, fun h => h, fun hour ids h => ?_⟩
    rw [Table.get?_of_first?_eq_none first] at h
    cases h
  | case2 l removed hour ids first due s ih =>
    have listing := Table.get?_of_first? first
    refine ⟨ih.life, ?_, fun h => ih.listed (h.drop listing due removed), ih.hours⟩
    exact (pruned_foldl cutoff ids (l.entries, removed)).trans ih.pruned
  | case3 l removed hour ids first notDue =>
    refine ⟨rfl, .refl _ _, fun h => h, fun later ids' h => ?_⟩
    rw [Bool.not_eq_true] at notDue
    rcases Table.before_of_first? first h with same | before
    · rwa [same]
    · exact isDue_of_le notDue (Int.le_of_lt (of_decide_eq_true before))

variable {now : DateTime} {swept : Ledger} {removed : Nat}

/-- A sweep comes to its end whenever its cutoff is in the calendar. -/
theorem exists_sweep? (h : l.cutoff? now = some cutoff) :
    ∃ swept removed, l.sweep? now = some (swept, removed) ∧
      Swept cutoff 0 l (swept, removed) := by
  refine ⟨_, _, ?_, swept_sweepFrom cutoff l 0⟩
  unfold sweep?
  rw [h]
  rfl

theorem swept_of_sweep? (h : l.sweep? now = some (swept, removed)) :
    ∃ cutoff, l.cutoff? now = some cutoff ∧ Swept cutoff 0 l (swept, removed) := by
  obtain ⟨cutoff, hcutoff, sweeping⟩ := Option.map_eq_some_iff.mp h
  exact ⟨cutoff, hcutoff, sweeping ▸ swept_sweepFrom cutoff l 0⟩

end TenantBilling.Ledger
