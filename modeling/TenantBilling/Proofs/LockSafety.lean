import TenantBilling.Proofs.LockInvariant

/-! Exclusion. Whatever callers do and whenever idle mutexes are evicted, a tenant has one
mutex while anybody refers to it, at most one caller holds it, and only another caller of the
same tenant can keep a caller waiting. A caller that holds a lock goes on holding it until it
lets it go. -/

namespace TenantBilling

namespace LockTable
variable {η : Type} {t u : LockTable η} {handle other : η} {tenant : String} {c d : LockCaller η}

/-- A caller refers to the mutex of a tenant. -/
def Refers (t : LockTable η) (handle : η) (tenant : String) : Prop :=
  ∃ c ∈ t.callers, c.handle = handle ∧ c.tenant = tenant

def Holds (t : LockTable η) (handle : η) (tenant : String) : Prop :=
  ∃ c ∈ t.callers, c.handle = handle ∧ c.tenant = tenant ∧ c.stage = .held

/-- A step that a caller does not go in: what it has it keeps. -/
def Keeps (t u : LockTable η) (handle : η) : Prop :=
  ∀ c ∈ t.callers, c.handle = handle →
    ∃ d ∈ u.callers, d.handle = handle ∧ d.tenant = c.tenant ∧ (c.stage = .held → d.stage = .held)

theorem Keeps.refers (h : t.Keeps u handle) (hr : t.Refers handle tenant) :
    u.Refers handle tenant := by
  obtain ⟨c, hc, hhandle, rfl⟩ := hr
  obtain ⟨d, hd, hhandle', htenant, -⟩ := h c hc hhandle
  exact ⟨d, hd, hhandle', htenant⟩

theorem Keeps.holds (h : t.Keeps u handle) (hh : t.Holds handle tenant) :
    u.Holds handle tenant := by
  obtain ⟨c, hc, hhandle, rfl, hheld⟩ := hh
  obtain ⟨d, hd, hhandle', htenant, hstage⟩ := h c hc hhandle
  exact ⟨d, hd, hhandle', htenant, hstage hheld⟩

theorem keeps_join (t : LockTable η) (other : η) (tenant : String) (handle : η) :
    t.Keeps (t.join other tenant) handle := by
  intro c hc hhandle
  refine ⟨c, ?_, hhandle, rfl, id⟩
  unfold join
  split <;> exact List.mem_append_left _ hc

theorem refers_join (t : LockTable η) (handle : η) (tenant : String) :
    (t.join handle tenant).Refers handle tenant := by
  unfold join
  split <;> exact ⟨_, List.mem_append_right _ List.mem_cons_self, rfl, rfl⟩

theorem mem_join (hd : d ∈ (t.join handle tenant).callers) : d.handle = handle ∨ d ∈ t.callers := by
  unfold join at hd
  split at hd
  all_goals
    rcases List.mem_append.mp hd with hd | hd
    · exact Or.inr hd
    · rw [List.mem_singleton.mp hd]
      exact Or.inl rfl

/-- Two callers do not hold the lock of one tenant. -/
theorem Exclusive.holds_unique (h : t.Exclusive) (hh : t.Holds handle tenant)
    (hh' : t.Holds other tenant) : handle = other := by
  obtain ⟨c, hc, rfl, rfl, hheld⟩ := hh
  obtain ⟨d, hd, rfl, htenant, hheld'⟩ := hh'
  rw [h.alone c hc d hd ((h.mutex_eq_iff hc hd).mpr htenant.symm) (hheld ▸ rfl) (hheld' ▸ rfl)]

variable [DecidableEq η]

theorem keeps_setStage {stage : LockStage} (h : stage = .held ∨ handle ≠ other) :
    t.Keeps (t.setStage other stage) handle := by
  intro c hc hhandle
  refine ⟨_, setStage_mem hc other stage, ?_⟩
  split
  · rename_i hother
    refine ⟨hhandle, rfl, fun _ => ?_⟩
    exact h.resolve_right fun hne => hne (hhandle.symm.trans hother)
  · exact ⟨hhandle, rfl, id⟩

theorem Sound.keeps_poll (h : t.Sound) (other handle : η) : t.Keeps (t.poll other).1 handle := by
  intro c hc hhandle
  cases hcaller : t.caller? other with
  | none =>
    rw [poll_of_none hcaller]
    exact ⟨c, hc, hhandle, rfl, id⟩
  | some d =>
    obtain ⟨hd, rfl⟩ := caller?_some hcaller
    have polled := h.polled hd
    generalize t.poll d.handle = p at polled ⊢
    obtain ⟨u, held⟩ := p
    cases polled with
    | again => exact ⟨c, hc, hhandle, rfl, id⟩
    | held => exact keeps_setStage (Or.inl rfl) c hc hhandle
    | stays => exact ⟨c, hc, hhandle, rfl, id⟩
    | queues stage =>
      by_cases hsame : c.handle = d.handle
      · obtain rfl := h.eq_of_handle hc hd hsame
        refine ⟨_, List.mem_append_right _ List.mem_cons_self, hhandle, rfl, fun hheld => ?_⟩
        rw [stage] at hheld
        cases hheld
      · exact ⟨c, List.mem_append_left _ (without_mem hc hsame), hhandle, rfl, id⟩

/-- A caller that was let in holds its mutex. -/
theorem Sound.holds_poll (h : t.Sound) (hr : t.Refers handle tenant)
    (hpoll : (t.poll handle).2 = true) : (t.poll handle).1.Holds handle tenant := by
  obtain ⟨c, hc, rfl, rfl⟩ := hr
  have polled := h.polled hc
  generalize t.poll c.handle = p at polled hpoll ⊢
  obtain ⟨u, held⟩ := p
  cases polled with
  | again stage => exact ⟨c, hc, rfl, rfl, stage⟩
  | held =>
    refine ⟨_, setStage_mem hc c.handle .held, ?_⟩
    rw [if_pos rfl]
    exact ⟨rfl, rfl, rfl⟩
  | stays => cases hpoll
  | queues => cases hpoll

theorem Sound.keeps_leave (h : t.Sound) (hne : handle ≠ other) :
    t.Keeps (t.leave other) handle := by
  intro c hc hhandle
  cases hcaller : t.caller? other with
  | none =>
    unfold LockTable.leave
    rw [hcaller]
    exact ⟨c, hc, hhandle, rfl, id⟩
  | some d =>
    have hrest := without_mem hc fun hsame => hne (hhandle.symm.trans hsame)
    rw [leave_of_some hcaller]
    cases d.stage.takes with
    | false => exact ⟨c, hrest, hhandle, rfl, id⟩
    | true =>
      rcases passOn_cases d.mutex (h.without other).handles with
        ⟨hsame, -⟩ | ⟨p, hp, -, hqueued, hpassed⟩
      · refine ⟨c, ?_, hhandle, rfl, id⟩
        rw [if_pos rfl, hsame]
        exact hrest
      · -- the first in line is not the one that holds the lock
        rw [if_pos rfl, hpassed]
        refine ⟨_, List.mem_map.mpr ⟨c, hrest, rfl⟩, ?_⟩
        split
        · rename_i promoted
          refine ⟨hhandle, rfl, fun hheld => ?_⟩
          rw [(h.without other).eq_of_handle hrest hp promoted, hqueued] at hheld
          cases hheld
        · exact ⟨hhandle, rfl, id⟩

/-! ## Who refers to a mutex -/

theorem handle_of_setStage {stage : LockStage} (hd : d ∈ (t.setStage other stage).callers) :
    ∃ c ∈ t.callers, c.handle = d.handle := by
  obtain ⟨c, hc, ⟨-, rfl⟩ | ⟨-, rfl⟩⟩ := mem_setStage hd
  · exact ⟨c, hc, rfl⟩
  · exact ⟨d, hc, rfl⟩

/-- Nobody comes to refer to a mutex by trying to acquire one. -/
theorem Sound.handle_of_poll (h : t.Sound) (hd : d ∈ (t.poll other).1.callers) :
    ∃ c ∈ t.callers, c.handle = d.handle := by
  cases hcaller : t.caller? other with
  | none =>
    rw [poll_of_none hcaller] at hd
    exact ⟨d, hd, rfl⟩
  | some c =>
    obtain ⟨hc, rfl⟩ := caller?_some hcaller
    have polled := h.polled hc
    generalize t.poll c.handle = p at polled hd
    obtain ⟨u, held⟩ := p
    cases polled with
    | again => exact ⟨d, hd, rfl⟩
    | held => exact handle_of_setStage hd
    | stays => exact ⟨d, hd, rfl⟩
    | queues =>
      rcases List.mem_append.mp hd with hd | hd
      · exact ⟨d, (mem_without hd).1, rfl⟩
      · rw [List.mem_singleton.mp hd]
        exact ⟨c, hc, rfl⟩

/-- Nobody comes to refer to a mutex because another caller lets one go. -/
theorem Sound.handle_of_leave (h : t.Sound) (hd : d ∈ (t.leave other).callers) :
    ∃ c ∈ t.callers, c.handle = d.handle := by
  cases hcaller : t.caller? other with
  | none =>
    unfold LockTable.leave at hd
    rw [hcaller] at hd
    exact ⟨d, hd, rfl⟩
  | some c =>
    rw [leave_of_some hcaller] at hd
    cases htakes : c.stage.takes with
    | false =>
      rw [htakes] at hd
      exact ⟨d, (mem_without hd).1, rfl⟩
    | true =>
      rw [htakes, if_pos rfl] at hd
      rcases passOn_cases c.mutex (h.without other).handles with
        ⟨hsame, -⟩ | ⟨p, -, -, -, hpassed⟩
      · rw [hsame] at hd
        exact ⟨d, (mem_without hd).1, rfl⟩
      · rw [hpassed] at hd
        obtain ⟨x, hx, hhandle⟩ := handle_of_setStage hd
        exact ⟨x, (mem_without hx).1, hhandle⟩

/-! ## Runs -/

/-- Tables that come about call by call from one without locks. A caller refers to one mutex at
a time, and leaves whether it holds the mutex or gives up waiting for it. -/
inductive Reachable : LockTable η → Prop
  | empty : Reachable empty
  | join {t : LockTable η} {handle : η} (before : Reachable t) (new : t.caller? handle = none)
    (tenant : String) : Reachable (t.join handle tenant)
  | poll {t : LockTable η} (before : Reachable t) (handle : η) : Reachable (t.poll handle).1
  | leave {t : LockTable η} (before : Reachable t) (handle : η) : Reachable (t.leave handle)
  | evict {t : LockTable η} (before : Reachable t) : Reachable t.evict.1

theorem Reachable.sound (h : t.Reachable) : t.Sound := by
  induction h with
  | empty => exact .empty
  | join _ new tenant ih => exact ih.join new tenant
  | poll _ handle ih => exact ih.poll handle
  | leave _ handle ih => exact ih.leave handle
  | evict _ ih => exact ih.evict

/-- What a table of locks is good for. -/
structure Excludes (t : LockTable η) : Prop where
  /-- Callers of one tenant refer to one mutex. -/
  shared : ∀ c ∈ t.callers, ∀ d ∈ t.callers, c.tenant = d.tenant → c.mutex = d.mutex
  /-- The mutex that is referred to is the one in the table. -/
  known : ∀ c ∈ t.callers, t.mutexes.get? c.tenant = some c.mutex
  /-- At most one caller of a tenant has the lock. -/
  alone : ∀ c ∈ t.callers, ∀ d ∈ t.callers, c.tenant = d.tenant → c.stage.takes = true →
    d.stage.takes = true → c = d
  /-- A caller is kept waiting by another caller of its tenant, and by nobody else. -/
  admits : ∀ c ∈ t.callers, ((t.poll c.handle).2 = true ↔
    ∀ d ∈ t.callers, d.tenant = c.tenant → d.stage.takes = true → d = c)
  holds : ∀ c ∈ t.callers, (t.poll c.handle).2 = true →
    (t.poll c.handle).1.Holds c.handle c.tenant
  /-- An eviction removes the tenants whose lock nobody holds or waits for, and no others. -/
  evicted : ∀ tenant, t.evict.1.mutexes.get? tenant =
    if t.isIdle tenant then none else t.mutexes.get? tenant
  undisturbed : t.evict.1.callers = t.callers
  counted : t.evict.2 = (t.mutexes.keys.filter t.isIdle).length

/-- Locks exclude, whatever callers have done and whenever idle mutexes were evicted. -/
theorem locks_exclude (reachable : t.Reachable) : t.Excludes where
  shared _ hc _ hd htenant := (reachable.sound.mutex_eq_iff hc hd).mpr htenant
  known := reachable.sound.known
  alone c hc d hd htenant :=
    reachable.sound.alone c hc d hd ((reachable.sound.mutex_eq_iff hc hd).mpr htenant)
  admits _ hc := reachable.sound.poll_iff hc
  holds c hc := reachable.sound.holds_poll ⟨c, hc, rfl, rfl⟩
  evicted := reachable.sound.get?_evict
  undisturbed := rfl
  counted := reachable.sound.evict_count

/-- One caller holds the lock of a tenant and another one waits for it; the lock of a second
tenant was let go. Only that one is evicted, and the caller that waits goes on waiting. -/
theorem evicted_while_held :
    let held := ((empty.join 0 "0xa1").poll 0).1
    let queued := ((held.join 1 "0xa1").poll 1).1
    let t : LockTable Nat := (queued.join 2 "0xb2").leave 2
    (t.poll 1).2 = false ∧ t.evict.2 = 1 ∧
      t.evict.1.mutexes.get? "0xa1" = some 0 ∧ t.evict.1.mutexes.get? "0xb2" = none := by
  intro held queued t
  have reachable : t.Reachable := by
    refine .leave (.join (.poll (.join (.poll (.join .empty ?_ _) 0) ?_ _) 1) ?_ _) 2
    all_goals rfl
  have excludes := locks_exclude reachable
  have callers : t.callers = [⟨0, "0xa1", 0, .held⟩, ⟨1, "0xa1", 0, .queued⟩] := by
    decide +kernel
  refine ⟨?_, ?_, ?_, ?_⟩
  · refine Bool.eq_false_iff.mpr fun admitted => ?_
    have alone := (excludes.admits ⟨1, "0xa1", 0, .queued⟩ (by simp [callers])).mp admitted
    cases alone ⟨0, "0xa1", 0, .held⟩ (by simp [callers]) rfl rfl
  · rw [excludes.counted]
    decide +kernel
  · rw [excludes.evicted]
    decide +kernel
  · rw [excludes.evicted]
    decide +kernel

end LockTable

end TenantBilling
