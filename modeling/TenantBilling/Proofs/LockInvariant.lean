import Mathlib.Data.List.Nodup
import TenantBilling.LockTable

/-! What every table of locks keeps, step by step. The callers of a tenant refer to one mutex,
the one in the table, and at most one of them has it; a mutex that callers wait for in line is
not free. Eviction keeps all of this because a caller is listed from its look-up on, so that
its mutex is not idle even before it tries to acquire it. -/

namespace TenantBilling

namespace LockTable
variable {η : Type} {t : LockTable η} {handle : η} {tenant : String} {c d : LockCaller η}

/-- Callers of a tenant refer to its mutex, and at most one of them has it. -/
structure Exclusive (t : LockTable η) : Prop where
  handles : (t.callers.map (·.handle)).Nodup
  known : ∀ c ∈ t.callers, t.mutexes.get? c.tenant = some c.mutex
  distinct : ∀ a b m, t.mutexes.get? a = some m → t.mutexes.get? b = some m → a = b
  issued : ∀ a m, t.mutexes.get? a = some m → m < t.nextMutex
  alone : ∀ c ∈ t.callers, ∀ d ∈ t.callers, c.mutex = d.mutex → c.stage.takes = true →
    d.stage.takes = true → c = d

/-- What every step keeps: locks exclude, and nobody waits in line for a mutex that is free. -/
structure Sound (t : LockTable η) : Prop extends Exclusive t where
  served : ∀ c ∈ t.callers, c.stage = .queued →
    ∃ d ∈ t.callers, d.mutex = c.mutex ∧ d.stage.takes = true

theorem isFree_iff {mutex : Nat} :
    t.isFree mutex = true ↔ ∀ c ∈ t.callers, c.mutex = mutex → c.stage.takes = false := by
  simp [isFree]

theorem Sound.empty : (LockTable.empty : LockTable η).Sound where
  handles := .nil
  known _ hc := nomatch hc
  distinct _ _ _ ha := nomatch ha
  issued _ _ ha := nomatch ha
  alone _ hc := nomatch hc
  served _ hc := nomatch hc

namespace Exclusive

theorem eq_of_handle (h : t.Exclusive) (hc : c ∈ t.callers) (hd : d ∈ t.callers)
    (hhandle : c.handle = d.handle) : c = d :=
  List.inj_on_of_nodup_map h.handles hc hd hhandle

/-- Callers of one mutex are callers of one tenant, and the other way round. -/
theorem mutex_eq_iff (h : t.Exclusive) (hc : c ∈ t.callers) (hd : d ∈ t.callers) :
    c.mutex = d.mutex ↔ c.tenant = d.tenant := by
  constructor
  · intro hmutex
    exact h.distinct _ _ _ (h.known c hc) (hmutex ▸ h.known d hd)
  · intro htenant
    exact Option.some.inj ((h.known c hc).symm.trans (htenant ▸ h.known d hd))

end Exclusive

/-! ## Look-ups -/

/-- A tenant without a mutex is given one that nobody else has. -/
theorem Sound.create (h : t.Sound) (new : t.mutexes.get? tenant = none) :
    ({ t with mutexes := t.mutexes.insert tenant t.nextMutex, nextMutex := t.nextMutex + 1 } :
      LockTable η).Sound := by
  refine ⟨⟨h.handles, fun c hc => ?_, fun a b m ha hb => ?_, fun a m ha => ?_, h.alone⟩, h.served⟩
  · have hknown := h.known c hc
    rw [Table.get?_insert_of_ne]
    · exact hknown
    · intro htenant
      rw [htenant, new] at hknown
      cases hknown
  · rw [Table.get?_insert] at ha hb
    split at ha <;> split at hb
    · rename_i ha' hb'
      exact ha'.trans hb'.symm
    · cases ha
      exact absurd (h.issued b _ hb) (Nat.lt_irrefl _)
    · cases hb
      exact absurd (h.issued a _ ha) (Nat.lt_irrefl _)
    · exact h.distinct a b m ha hb
  · rw [Table.get?_insert] at ha
    split at ha
    · cases ha
      exact Nat.lt_succ_self _
    · exact Nat.lt_succ_of_lt (h.issued a m ha)

/-- A new caller takes nothing and is not in line. -/
theorem Sound.arrive (h : t.Sound) (new : ∀ c ∈ t.callers, c.handle ≠ handle) {mutex : Nat}
    (known : t.mutexes.get? tenant = some mutex) :
    ({ t with callers := t.callers ++ [⟨handle, tenant, mutex, .arrived⟩] } :
      LockTable η).Sound := by
  refine ⟨⟨?_, fun c hc => ?_, h.distinct, h.issued, fun c hc d hd hmutex htakes htakes' => ?_⟩,
    fun c hc hqueued => ?_⟩
  · rw [List.map_append, List.nodup_append]
    refine ⟨h.handles, List.nodup_singleton _, ?_⟩
    rintro a ha b hb rfl
    obtain ⟨c, hc, rfl⟩ := List.mem_map.mp ha
    exact new c hc (List.mem_singleton.mp hb)
  · rcases List.mem_append.mp hc with hc | hc
    · exact h.known c hc
    · obtain rfl := List.mem_singleton.mp hc
      exact known
  · rcases List.mem_append.mp hc with hc | hc
    · rcases List.mem_append.mp hd with hd | hd
      · exact h.alone c hc d hd hmutex htakes htakes'
      · obtain rfl := List.mem_singleton.mp hd
        cases htakes'
    · obtain rfl := List.mem_singleton.mp hc
      cases htakes
  · rcases List.mem_append.mp hc with hc | hc
    · obtain ⟨d, hd, htaken⟩ := h.served c hc hqueued
      exact ⟨d, List.mem_append_left _ hd, htaken⟩
    · obtain rfl := List.mem_singleton.mp hc
      cases hqueued

/-! ## Eviction of idle mutexes -/

/-- Whether nobody holds the lock of a tenant or waits for it. -/
def isIdle (t : LockTable η) (tenant : String) : Bool := t.callers.all fun c => c.tenant != tenant

theorem isIdle_of_mem (hc : c ∈ t.callers) : t.isIdle c.tenant = false := by
  unfold isIdle
  exact List.all_eq_false.mpr ⟨c, hc, by simp⟩

/-- The mutex of a tenant is referred to by the callers of this tenant. -/
theorem Exclusive.isReferred_eq (h : t.Exclusive) {mutex : Nat}
    (known : t.mutexes.get? tenant = some mutex) : t.isReferred mutex = !t.isIdle tenant := by
  unfold isReferred isIdle
  rw [Bool.eq_iff_iff, List.any_eq_true, Bool.not_eq_true', List.all_eq_false]
  refine exists_congr fun c => and_congr_right fun hc => ?_
  rw [beq_iff_eq, bne_iff_ne, not_not]
  constructor
  · rintro rfl
    exact h.distinct _ _ _ (h.known c hc) known
  · rintro rfl
    exact Option.some.inj ((h.known c hc).symm.trans known)

theorem Exclusive.get?_evict (h : t.Exclusive) (tenant : String) :
    t.evict.1.mutexes.get? tenant = if t.isIdle tenant then none else t.mutexes.get? tenant := by
  have hfilter : t.evict.1.mutexes.get? tenant =
      (t.mutexes.get? tenant).filter fun m => t.isReferred m := Table.get?_filter _ _ _
  rw [hfilter]
  cases hknown : t.mutexes.get? tenant with
  | none => simp
  | some mutex =>
    rw [Option.filter_some, h.isReferred_eq hknown]
    cases t.isIdle tenant <;> rfl

theorem Exclusive.evict_count (h : t.Exclusive) :
    t.evict.2 = (t.mutexes.keys.filter t.isIdle).length := by
  have hkeys : (t.mutexes.keys.filter t.isIdle).length =
      (t.mutexes.entries.filter fun e => !t.isReferred e.2).length := by
    unfold Table.keys
    rw [List.filter_map, List.length_map]
    refine congrArg _ (List.filter_congr fun e he => ?_)
    rw [h.isReferred_eq ((Table.mem_entries_iff _ _ _).mp he), Bool.not_not]
    rfl
  rw [hkeys]
  have hsplit := List.length_eq_length_filter_add (l := t.mutexes.entries) fun e => t.isReferred e.2
  exact Nat.sub_eq_of_eq_add' hsplit

theorem Sound.evict (h : t.Sound) : t.evict.1.Sound := by
  have hold {a : String} {m : Nat} (ha : t.evict.1.mutexes.get? a = some m) :
      t.mutexes.get? a = some m := by
    rw [h.get?_evict] at ha
    split at ha
    · cases ha
    · exact ha
  refine ⟨⟨h.handles, fun c hc => ?_, fun a b m ha hb => h.distinct a b m (hold ha) (hold hb),
    fun a m ha => h.issued a m (hold ha), h.alone⟩, h.served⟩
  have hidle : t.isIdle c.tenant = false := isIdle_of_mem hc
  rw [h.get?_evict, hidle]
  exact h.known c hc

/-! ## Callers that come -/

variable [DecidableEq η]

theorem caller?_some (h : t.caller? handle = some c) : c ∈ t.callers ∧ c.handle = handle := by
  have hhandle := List.find?_some h
  exact ⟨List.mem_of_find?_eq_some h, beq_iff_eq.mp hhandle⟩

theorem caller?_none (h : t.caller? handle = none) : ∀ c ∈ t.callers, c.handle ≠ handle := by
  intro c hc hhandle
  exact List.find?_eq_none.mp h c hc (beq_iff_eq.mpr hhandle)

theorem Exclusive.caller?_eq (h : t.Exclusive) (hc : c ∈ t.callers) :
    t.caller? c.handle = some c := by
  cases hfind : t.caller? c.handle with
  | none => exact absurd rfl (caller?_none hfind c hc)
  | some d =>
    obtain ⟨hd, hhandle⟩ := caller?_some hfind
    rw [h.eq_of_handle hd hc hhandle]

theorem Sound.join (h : t.Sound) (new : t.caller? handle = none) (tenant : String) :
    (t.join handle tenant).Sound := by
  have others := caller?_none new
  unfold LockTable.join
  split
  · rename_i known
    exact h.arrive others known
  · rename_i none
    exact (h.create none).arrive others (Table.get?_insert_self _ _ _)

/-! ## Acquisition -/

theorem mem_setStage {stage : LockStage} (hc : c ∈ (t.setStage handle stage).callers) :
    ∃ d ∈ t.callers, (d.handle = handle ∧ c = { d with stage }) ∨ (d.handle ≠ handle ∧ c = d) := by
  obtain ⟨d, hd, rfl⟩ := List.mem_map.mp hc
  refine ⟨d, hd, ?_⟩
  split
  · rename_i hhandle
    exact Or.inl ⟨hhandle, rfl⟩
  · rename_i hhandle
    exact Or.inr ⟨hhandle, rfl⟩

theorem setStage_mem (hd : d ∈ t.callers) (handle : η) (stage : LockStage) :
    (if d.handle = handle then { d with stage } else d) ∈ (t.setStage handle stage).callers :=
  List.mem_map.mpr ⟨d, hd, rfl⟩

/-- Who has a mutex still has it when a caller is moved to a stage that takes it. -/
theorem takes_setStage (hd : d ∈ t.callers) (htakes : d.stage.takes = true) (handle : η)
    {stage : LockStage} (takes : stage.takes = true) :
    ∃ e ∈ (t.setStage handle stage).callers, e.mutex = d.mutex ∧ e.stage.takes = true := by
  refine ⟨_, setStage_mem hd handle stage, ?_⟩
  split
  · exact ⟨rfl, takes⟩
  · exact ⟨rfl, htakes⟩

/-- A mutex that nobody else has can be taken. -/
theorem Exclusive.take (h : t.Exclusive) (hc : c ∈ t.callers) (stage : LockStage)
    (alone : ∀ d ∈ t.callers, d.mutex = c.mutex → d.stage.takes = true → d = c) :
    (t.setStage c.handle stage).Exclusive := by
  refine ⟨?_, fun x hx => ?_, h.distinct, h.issued, fun x hx y hy hmutex htakes htakes' => ?_⟩
  · have hsame : (t.setStage c.handle stage).callers.map (·.handle) = t.callers.map (·.handle) := by
      simp only [setStage, List.map_map]
      refine List.map_congr_left fun d _ => ?_
      dsimp only [Function.comp]
      split <;> rfl
    rw [hsame]
    exact h.handles
  · obtain ⟨d, hd, ⟨-, rfl⟩ | ⟨-, rfl⟩⟩ := mem_setStage hx
    · exact h.known d hd
    · exact h.known x hd
  · obtain ⟨d, hd, ⟨hhandle, rfl⟩ | ⟨hhandle, rfl⟩⟩ := mem_setStage hx
    · obtain rfl := h.eq_of_handle hd hc hhandle
      obtain ⟨e, he, ⟨hhandle', rfl⟩ | ⟨hhandle', rfl⟩⟩ := mem_setStage hy
      · rw [h.eq_of_handle he hc hhandle']
      · exact absurd (congrArg _ (alone y he hmutex.symm htakes')) hhandle'
    · obtain ⟨e, he, ⟨hhandle', rfl⟩ | ⟨hhandle', rfl⟩⟩ := mem_setStage hy
      · obtain rfl := h.eq_of_handle he hc hhandle'
        exact absurd (congrArg _ (alone x hd hmutex htakes)) hhandle
      · exact h.alone x hd y he hmutex htakes htakes'

theorem Sound.hold (h : t.Sound) (hc : c ∈ t.callers)
    (alone : ∀ d ∈ t.callers, d.mutex = c.mutex → d.stage.takes = true → d = c) :
    (t.setStage c.handle .held).Sound := by
  refine ⟨h.take hc .held alone, fun x hx hqueued => ?_⟩
  obtain ⟨d, hd, ⟨-, rfl⟩ | ⟨-, rfl⟩⟩ := mem_setStage hx
  · cases hqueued
  · obtain ⟨e, he, hmutex, htakes⟩ := h.served x hd hqueued
    obtain ⟨e', he', hmutex', htakes'⟩ := takes_setStage he htakes c.handle
      (rfl : LockStage.held.takes = true)
    exact ⟨e', he', hmutex'.trans hmutex, htakes'⟩

theorem mem_without (hd : d ∈ t.callers.filter fun d => d.handle != handle) :
    d ∈ t.callers ∧ d.handle ≠ handle := by
  obtain ⟨hd, hhandle⟩ := List.mem_filter.mp hd
  exact ⟨hd, bne_iff_ne.mp hhandle⟩

theorem without_mem (hd : d ∈ t.callers) (hhandle : d.handle ≠ handle) :
    d ∈ t.callers.filter fun d => d.handle != handle :=
  List.mem_filter.mpr ⟨hd, bne_iff_ne.mpr hhandle⟩

/-- A caller that found its mutex taken goes to the end of the line. -/
theorem Sound.enqueue (h : t.Sound) (hc : c ∈ t.callers) (waits : c.stage.takes = false)
    (taken : t.isFree c.mutex = false) : (t.enqueue c).Sound := by
  refine ⟨⟨?_, fun x hx => ?_, h.distinct, h.issued, fun x hx y hy hmutex htakes htakes' => ?_⟩,
    fun x hx hqueued => ?_⟩
  · unfold LockTable.enqueue
    rw [List.map_append, List.nodup_append]
    refine ⟨(List.filter_sublist.map _).nodup h.handles, List.nodup_singleton _, ?_⟩
    rintro a ha b hb rfl
    obtain ⟨x, hx, rfl⟩ := List.mem_map.mp ha
    exact (mem_without hx).2 (List.mem_singleton.mp hb)
  · rcases List.mem_append.mp hx with hx | hx
    · exact h.known x (mem_without hx).1
    · obtain rfl := List.mem_singleton.mp hx
      exact h.known c hc
  · rcases List.mem_append.mp hx with hx | hx
    · rcases List.mem_append.mp hy with hy | hy
      · exact h.alone x (mem_without hx).1 y (mem_without hy).1 hmutex htakes htakes'
      · obtain rfl := List.mem_singleton.mp hy
        cases htakes'
    · obtain rfl := List.mem_singleton.mp hx
      cases htakes
  · have hserved : ∃ d ∈ t.callers, d.mutex = x.mutex ∧ d.stage.takes = true := by
      rcases List.mem_append.mp hx with hx | hx
      · exact h.served x (mem_without hx).1 hqueued
      · obtain rfl := List.mem_singleton.mp hx
        simpa [isFree] using taken
    obtain ⟨d, hd, hmutex, htakes⟩ := hserved
    refine ⟨d, List.mem_append_left _ (without_mem hd fun hhandle => ?_), hmutex, htakes⟩
    rw [h.eq_of_handle hd hc hhandle, waits] at htakes
    cases htakes

/-- What trying to acquire a mutex comes to. -/
inductive Polled (t : LockTable η) (c : LockCaller η) : LockTable η → Bool → Prop
  | again (stage : c.stage = .held) : Polled t c t true
  | held (alone : ∀ d ∈ t.callers, d.mutex = c.mutex → d.stage.takes = true → d = c) :
    Polled t c (t.setStage c.handle .held) true
  | stays (stage : c.stage = .queued) : Polled t c t false
  | queues (stage : c.stage = .arrived) (taken : t.isFree c.mutex = false) :
    Polled t c (t.enqueue c) false

theorem Sound.polled (h : t.Sound) (hc : c ∈ t.callers) :
    Polled t c (t.poll c.handle).1 (t.poll c.handle).2 := by
  unfold LockTable.poll
  simp only [h.caller?_eq hc]
  cases hstage : c.stage with
  | held => exact .again hstage
  | queued => exact .stays hstage
  | assigned =>
    refine .held fun d hd hmutex htakes => ?_
    exact h.alone d hd c hc hmutex htakes (hstage ▸ rfl)
  | arrived =>
    dsimp only
    split
    · rename_i free
      refine .held fun d hd hmutex htakes => ?_
      rw [isFree_iff.mp free d hd hmutex] at htakes
      cases htakes
    · rename_i taken
      exact .queues hstage (Bool.eq_false_iff.mpr taken)

theorem poll_of_none (h : t.caller? handle = none) : t.poll handle = (t, false) := by
  unfold poll
  rw [h]

theorem Sound.poll (h : t.Sound) (handle : η) : (t.poll handle).1.Sound := by
  cases hcaller : t.caller? handle with
  | none =>
    rw [poll_of_none hcaller]
    exact h
  | some c =>
    obtain ⟨hc, rfl⟩ := caller?_some hcaller
    have polled := h.polled hc
    generalize t.poll c.handle = p at polled ⊢
    obtain ⟨u, held⟩ := p
    cases polled with
    | again => exact h
    | held alone => exact h.hold hc alone
    | stays => exact h
    | queues stage taken => exact h.enqueue hc (stage ▸ rfl) taken

/-- A caller is let in unless another caller of its tenant has the mutex. -/
theorem Sound.poll_iff (h : t.Sound) (hc : c ∈ t.callers) :
    (t.poll c.handle).2 = true ↔
      ∀ d ∈ t.callers, d.tenant = c.tenant → d.stage.takes = true → d = c := by
  have hmutex {d : LockCaller η} (hd : d ∈ t.callers) : d.mutex = c.mutex ↔ d.tenant = c.tenant :=
    h.mutex_eq_iff hd hc
  have blocked (waits : c.stage.takes = false) {d : LockCaller η} (hd : d ∈ t.callers)
      (hsame : d.mutex = c.mutex) (htakes : d.stage.takes = true) :
      ¬∀ d ∈ t.callers, d.tenant = c.tenant → d.stage.takes = true → d = c := by
    intro alone
    rw [alone d hd ((hmutex hd).mp hsame) htakes, waits] at htakes
    cases htakes
  have polled := h.polled hc
  generalize t.poll c.handle = p at polled ⊢
  obtain ⟨u, held⟩ := p
  cases polled with
  | again stage =>
    refine iff_of_true rfl fun d hd htenant htakes => ?_
    exact h.alone d hd c hc ((hmutex hd).mpr htenant) htakes (stage ▸ rfl)
  | held alone =>
    exact iff_of_true rfl fun d hd htenant htakes => alone d hd ((hmutex hd).mpr htenant) htakes
  | stays stage =>
    obtain ⟨d, hd, hsame, htakes⟩ := h.served c hc stage
    exact iff_of_false Bool.false_ne_true (blocked (stage ▸ rfl) hd hsame htakes)
  | queues stage taken =>
    have htaken : ∃ d ∈ t.callers, d.mutex = c.mutex ∧ d.stage.takes = true := by
      simpa [isFree] using taken
    obtain ⟨d, hd, hsame, htakes⟩ := htaken
    exact iff_of_false Bool.false_ne_true (blocked (stage ▸ rfl) hd hsame htakes)

/-! ## Callers that go -/

theorem Exclusive.without (h : t.Exclusive) (handle : η) :
    ({ t with callers := t.callers.filter fun d => d.handle != handle } :
      LockTable η).Exclusive where
  handles := (List.filter_sublist.map _).nodup h.handles
  known x hx := h.known x (mem_without hx).1
  distinct := h.distinct
  issued := h.issued
  alone x hx y hy := h.alone x (mem_without hx).1 y (mem_without hy).1

/-- A mutex is passed on to the first in line, if anybody is in line for it. -/
theorem passOn_cases (mutex : Nat) {l : List (LockCaller η)} (hl : (l.map (·.handle)).Nodup) :
    (passOn mutex l = l ∧ ∀ c ∈ l, c.mutex = mutex → c.stage ≠ .queued) ∨
      ∃ c ∈ l, c.mutex = mutex ∧ c.stage = .queued ∧
        passOn mutex l =
          l.map fun d => if d.handle = c.handle then { d with stage := .assigned } else d := by
  induction l with
  | nil => exact Or.inl ⟨rfl, fun c hc => nomatch hc⟩
  | cons d l ih =>
    obtain ⟨hd, hl⟩ := List.nodup_cons.mp hl
    unfold passOn
    split
    · rename_i first
      refine Or.inr ⟨d, List.mem_cons_self, first.1, first.2, ?_⟩
      rw [List.map_cons, if_pos rfl]
      congr 1
      refine (List.map_id l).symm.trans (List.map_congr_left fun e he => ?_)
      exact (if_neg fun hhandle => hd (List.mem_map.mpr ⟨e, he, hhandle⟩)).symm
    · rename_i notFirst
      rcases ih hl with ⟨hsame, hnone⟩ | ⟨c, hc, hmutex, hqueued, hpassed⟩
      · refine Or.inl ⟨by rw [hsame], fun c hc hmutex hqueued => ?_⟩
        rcases List.mem_cons.mp hc with rfl | hc
        · exact notFirst ⟨hmutex, hqueued⟩
        · exact hnone c hc hmutex hqueued
      · refine Or.inr ⟨c, List.mem_cons_of_mem _ hc, hmutex, hqueued, ?_⟩
        rw [hpassed, List.map_cons,
          if_neg fun hhandle => hd (List.mem_map.mpr ⟨c, hc, hhandle.symm⟩)]

/-- A caller that waits can give up. -/
theorem Sound.giveUp (h : t.Sound) (hc : c ∈ t.callers) (waits : c.stage.takes = false) :
    ({ t with callers := t.callers.filter fun d => d.handle != c.handle } :
      LockTable η).Sound := by
  refine ⟨h.without c.handle, fun x hx hqueued => ?_⟩
  obtain ⟨d, hd, hmutex, htakes⟩ := h.served x (mem_without hx).1 hqueued
  refine ⟨d, without_mem hd fun hhandle => ?_, hmutex, htakes⟩
  rw [h.eq_of_handle hd hc hhandle, waits] at htakes
  cases htakes

/-- A caller that has its mutex passes it on. -/
theorem Sound.release (h : t.Sound) (hc : c ∈ t.callers) (takes : c.stage.takes = true) :
    ({ t with callers := passOn c.mutex (t.callers.filter fun d => d.handle != c.handle) } :
      LockTable η).Sound := by
  have rest := h.without c.handle
  -- the line of another mutex is served by another caller
  have others {x : LockCaller η} (hx : x ∈ t.callers) (hmutex : x.mutex ≠ c.mutex)
      (hqueued : x.stage = .queued) : ∃ d ∈ t.callers.filter fun d => d.handle != c.handle,
      d.mutex = x.mutex ∧ d.stage.takes = true := by
    obtain ⟨d, hd, hmutex', htakes⟩ := h.served x hx hqueued
    refine ⟨d, without_mem hd fun hhandle => hmutex ?_, hmutex', htakes⟩
    rw [← hmutex', h.eq_of_handle hd hc hhandle]
  rcases passOn_cases c.mutex rest.handles with ⟨hsame, hnone⟩ | ⟨p, hp, hmutex, -, hpassed⟩
  · rw [hsame]
    exact ⟨rest, fun x hx hqueued =>
      others (mem_without hx).1 (fun hmutex => hnone x hx hmutex hqueued) hqueued⟩
  · rw [hpassed]
    refine ⟨rest.take hp .assigned fun d hd hmutex' htakes => ?_, fun x hx hqueued => ?_⟩
    · -- nobody has the mutex that was let go
      obtain ⟨hd, hhandle⟩ := mem_without hd
      exact absurd (congrArg _ (h.alone d hd c hc (hmutex'.trans hmutex) htakes takes)) hhandle
    · obtain ⟨d, hd, ⟨-, rfl⟩ | ⟨-, rfl⟩⟩ := mem_setStage hx
      · cases hqueued
      · by_cases hmutex' : x.mutex = c.mutex
        · refine ⟨_, setStage_mem hp p.handle .assigned, ?_⟩
          rw [if_pos rfl]
          exact ⟨hmutex.trans hmutex'.symm, rfl⟩
        · obtain ⟨e, he, hsame, htakes⟩ := others (mem_without hd).1 hmutex' hqueued
          obtain ⟨e', he', hsame', htakes'⟩ := takes_setStage (t := { t with
            callers := t.callers.filter fun d => d.handle != c.handle }) he htakes p.handle
            (rfl : LockStage.assigned.takes = true)
          exact ⟨e', he', hsame'.trans hsame, htakes'⟩

theorem leave_of_some (hc : t.caller? handle = some c) :
    t.leave handle = { t with
      callers :=
        if c.stage.takes then passOn c.mutex (t.callers.filter (·.handle != handle))
        else t.callers.filter (·.handle != handle) } := by
  unfold leave
  rw [hc]

theorem Sound.leave (h : t.Sound) (handle : η) : (t.leave handle).Sound := by
  cases hcaller : t.caller? handle with
  | none =>
    unfold LockTable.leave
    rw [hcaller]
    exact h
  | some c =>
    rw [leave_of_some hcaller]
    obtain ⟨hc, rfl⟩ := caller?_some hcaller
    cases htakes : c.stage.takes with
    | false => exact h.giveUp hc htakes
    | true => exact h.release hc htakes

end LockTable

end TenantBilling
