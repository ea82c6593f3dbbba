import TenantBilling.Proofs.LockSafety
import TenantBilling.Proofs.Stages

/-! Deliveries of one organization and its lock. A delivery that looked the lock up refers to it
under a ticket of its own until it lets it go, and holds it from the turn in which it was let
in. So at most one delivery at a time is past the lock. -/

namespace TenantBilling

namespace Call

def IsLocking : Call → Prop
  | .join _ => True
  | .acquire _ => True
  | .release _ => True
  | _ => False

theorem IsReconciling.not_isLocking {q : Call} (h : q.IsReconciling) : ¬q.IsLocking := by
  intro hq
  cases q <;> first | exact False.elim hq | exact False.elim h

theorem IsClosing.not_isLocking {id : String} {q : Call} (h : q.IsClosing id) : ¬q.IsLocking := by
  intro hq
  cases q <;> first | exact False.elim hq | exact False.elim h

end Call

theorem World.locks_answer (w : World) {q : Call} (h : ¬q.IsLocking) :
    (w.answer q).2.locks = w.locks ∧ (w.answer q).2.nextTicket = w.nextTicket := by
  cases q with
  | join => exact absurd trivial h
  | acquire => exact absurd trivial h
  | release => exact absurd trivial h
  | store c =>
    simp only [World.answer]
    split <;> exact ⟨rfl, rfl⟩
  | ledger c =>
    simp only [World.answer]
    split <;> exact ⟨rfl, rfl⟩
  | _ => exact ⟨rfl, rfl⟩

namespace Delivery.Stage
variable {e : TenantEvent}

/-- The ticket of a delivery that looked the lock up and did not let it go yet. -/
def ticket? : Stage e → Option Nat
  | .waiting ticket => some ticket
  | .entered ticket => some ticket
  | .working ticket _ _ => some ticket
  | .refused ticket => some ticket
  | _ => none

/-- The ticket of a delivery that holds the lock. -/
def guard? : Stage e → Option Nat
  | .entered ticket => some ticket
  | .working ticket _ _ => some ticket
  | .refused ticket => some ticket
  | _ => none

theorem ticket?_of_guard? {s : Stage e} {ticket : Nat} (h : s.guard? = some ticket) :
    s.ticket? = some ticket := by
  cases s <;> first | exact h | cases h

end Delivery.Stage

namespace Crowd
open Delivery
variable {ι : Type} {address : String} {events : ι → TenantEvent}
  {σ τ : (i : ι) → Stage (events i)} {w u : World} {i j : ι} {ticket other : Nat}

/-- The lock of an organization and the deliveries of its events, which refer to it by
their tickets. -/
structure Locked (address : String) (σ : (i : ι) → Stage (events i)) (w : World) : Prop where
  sound : w.locks.Sound
  issued : ∀ c ∈ w.locks.callers, c.handle < w.nextTicket
  refers : ∀ i ticket, (σ i).ticket? = some ticket → w.locks.Refers ticket address
  holds : ∀ i ticket, (σ i).guard? = some ticket → w.locks.Holds ticket address
  own : ∀ i j ticket, (σ i).ticket? = some ticket → (σ j).ticket? = some ticket → i = j

/-- Two deliveries do not hold the lock. -/
theorem Locked.alone (h : Locked address σ w) (hi : (σ i).guard? = some ticket)
    (hj : (σ j).guard? = some other) : i = j := by
  have hsame := h.sound.holds_unique (h.holds i ticket hi) (h.holds j other hj)
  refine h.own i j ticket (Stage.ticket?_of_guard? hi) ?_
  rw [hsame]
  exact Stage.ticket?_of_guard? hj

theorem Locked.lt (h : Locked address σ w) (hi : (σ i).ticket? = some ticket) :
    ticket < w.nextTicket := by
  obtain ⟨c, hc, rfl, -⟩ := h.refers i ticket hi
  exact h.issued c hc

/-- A step in which no delivery looks the lock up or lets it go, and everybody keeps what it
has. -/
theorem Locked.keep (h : Locked address σ w) (sound : u.locks.Sound)
    (issued : ∀ c ∈ u.locks.callers, c.handle < u.nextTicket)
    (keeps : ∀ i ticket, (τ i).ticket? = some ticket →
      (σ i).ticket? = some ticket ∧ w.locks.Keeps u.locks ticket)
    (holds : ∀ i ticket, (τ i).guard? = some ticket →
      (σ i).guard? = some ticket ∨ u.locks.Holds ticket address) :
    Locked address τ u where
  sound := sound
  issued := issued
  refers i ticket hi := (keeps i ticket hi).2.refers (h.refers i ticket (keeps i ticket hi).1)
  holds i ticket hi := by
    rcases holds i ticket hi with hguard | hholds
    · exact (keeps i ticket (Stage.ticket?_of_guard? hi)).2.holds (h.holds i ticket hguard)
    · exact hholds
  own i j ticket hi hj := h.own i j ticket (keeps i ticket hi).1 (keeps j ticket hj).1

/-- The locks do not matter to a step that is not about them. -/
theorem Locked.same (h : Locked address σ w) (locks : u.locks = w.locks)
    (next : u.nextTicket = w.nextTicket) (tickets : ∀ i, (τ i).ticket? = (σ i).ticket?)
    (guards : ∀ i, (τ i).guard? = (σ i).guard?) : Locked address τ u := by
  refine h.keep (locks ▸ h.sound) (by rw [locks, next]; exact h.issued) (fun i ticket hi => ?_)
    fun i ticket hi => Or.inl (guards i ▸ hi)
  rw [locks]
  exact ⟨tickets i ▸ hi, fun c hc hhandle => ⟨c, hc, hhandle, rfl, id⟩⟩

theorem Locked.evict (h : Locked address σ w) : Locked address σ w.evictLocks.2 := by
  refine h.keep h.sound.evict h.issued (fun i ticket hi => ⟨hi, ?_⟩) fun i ticket hi => Or.inl hi
  exact fun c hc hhandle => ⟨c, hc, hhandle, rfl, id⟩

/-- Trying to acquire the lock, whether it succeeds or not. -/
theorem Locked.poll (h : Locked address σ w) (other : Nat)
    (tickets : ∀ i, (τ i).ticket? = (σ i).ticket?)
    (guards : ∀ i ticket, (τ i).guard? = some ticket → (σ i).guard? = some ticket ∨
      (ticket = other ∧ (w.locks.poll other).2 = true)) :
    Locked address τ (w.answer (.acquire other)).2 := by
  refine h.keep (h.sound.poll other) (fun c hc => ?_) (fun i ticket hi => ?_)
    fun i ticket hi => ?_
  · obtain ⟨d, hd, hhandle⟩ := h.sound.handle_of_poll hc
    exact hhandle ▸ h.issued d hd
  · exact ⟨tickets i ▸ hi, h.sound.keeps_poll other ticket⟩
  · rcases guards i ticket hi with hguard | ⟨rfl, free⟩
    · exact Or.inl hguard
    · have refers := h.refers i ticket (tickets i ▸ Stage.ticket?_of_guard? hi)
      exact Or.inr (h.sound.holds_poll refers free)

variable [DecidableEq ι]

/-- A field of the stages after one delivery came to another stage. -/
theorem field_update {β : Type} (f : (k : ι) → Stage (events k) → β)
    (σ : (k : ι) → Stage (events k)) (i : ι) (s : Stage (events i)) (k : ι) :
    f k (Function.update σ i s k) = if k = i then f i s else f k (σ k) := by
  split
  · rename_i hk
    subst hk
    rw [Function.update_self]
  · rename_i hk
    rw [Function.update_of_ne hk]

theorem field_update_same {β : Type} (f : (k : ι) → Stage (events k) → β) {i : ι}
    {s : Stage (events i)} (h : f i s = f i (σ i)) (k : ι) :
    f k (Function.update σ i s k) = f k (σ k) := by
  rw [field_update f]
  split
  · rename_i hk
    subst hk
    exact h
  · rfl

/-- A delivery looks the lock up. -/
theorem Locked.join (h : Locked address σ w) {s : Stage (events i)}
    (hs : s.ticket? = some w.nextTicket) (hguard : s.guard? = none) :
    Locked address (Function.update σ i s) (w.answer (.join address)).2 := by
  have new : w.locks.caller? w.nextTicket = none := by
    cases hc : w.locks.caller? w.nextTicket with
    | none => rfl
    | some c =>
      obtain ⟨hmem, hhandle⟩ := LockTable.caller?_some hc
      exact absurd (hhandle ▸ h.issued c hmem) (Nat.lt_irrefl _)
  have tickets (k : ι) : (Function.update σ i s k).ticket? =
      if k = i then some w.nextTicket else (σ k).ticket? := by
    rw [field_update fun _ s => s.ticket?, hs]
  refine ⟨h.sound.join new address, fun c hc => ?_, fun k ticket hk => ?_, fun k ticket hk => ?_,
    fun k l ticket hk hl => ?_⟩
  · rcases LockTable.mem_join hc with hhandle | hc
    · rw [hhandle]
      exact Nat.lt_succ_self _
    · exact Nat.lt_succ_of_lt (h.issued c hc)
  · rw [tickets] at hk
    split at hk
    · cases hk
      exact LockTable.refers_join _ _ _
    · exact (LockTable.keeps_join _ _ _ _).refers (h.refers k ticket hk)
  · rw [field_update fun _ s => s.guard?, hguard] at hk
    split at hk
    · cases hk
    · exact (LockTable.keeps_join _ _ _ _).holds (h.holds k ticket hk)
  · rw [tickets] at hk hl
    split at hk <;> split at hl
    · rename_i hk' hl'
      exact hk'.trans hl'.symm
    · cases hk
      exact absurd (h.lt hl) (Nat.lt_irrefl _)
    · cases hl
      exact absurd (h.lt hk) (Nat.lt_irrefl _)
    · exact h.own k l ticket hk hl

/-- A delivery lets the lock go. -/
theorem Locked.leave (h : Locked address σ w) (hi : (σ i).ticket? = some ticket)
    {s : Stage (events i)} (hs : s.ticket? = none) :
    Locked address (Function.update σ i s) (w.answer (.release ticket)).2 := by
  have others {k : ι} {other : Nat} (hk : (Function.update σ i s k).ticket? = some other) :
      k ≠ i ∧ (σ k).ticket? = some other := by
    rw [field_update fun _ s => s.ticket?, hs] at hk
    split at hk
    · cases hk
    · rename_i hne
      exact ⟨hne, hk⟩
  refine h.keep (h.sound.leave ticket) (fun c hc => ?_) (fun k other hk => ?_)
    fun k other hk => ?_
  · obtain ⟨d, hd, hhandle⟩ := h.sound.handle_of_leave hc
    exact hhandle ▸ h.issued d hd
  · obtain ⟨hne, hk⟩ := others hk
    refine ⟨hk, h.sound.keeps_leave fun hsame => hne ?_⟩
    exact h.own k i other hk (hsame ▸ hi)
  · obtain ⟨hne, -⟩ := others (Stage.ticket?_of_guard? hk)
    rw [Function.update_of_ne hne] at hk
    exact Or.inl hk

/-- What a delivery does with the lock in a turn. -/
theorem Locked.advance (h : Locked address σ w) (home : (events i).address = address)
    {q : Call} {s : Stage (events i)} (advance : (σ i).Advance w q s) :
    Locked address (Function.update σ i s) (w.answer q).2 := by
  have same (ticket : s.ticket? = (σ i).ticket?) (guard : s.guard? = (σ i).guard?)
      (hq : ¬q.IsLocking) : Locked address (Function.update σ i s) (w.answer q).2 :=
    h.same (w.locks_answer hq).1 (w.locks_answer hq).2
      (field_update_same (fun _ s => s.ticket?) ticket)
      (field_update_same (fun _ s => s.guard?) guard)
  generalize hσ : σ i = s₀ at advance same
  cases advance with
  | pass => exact same rfl rfl id
  | skip => exact same rfl rfl id
  | join => exact home ▸ h.join rfl rfl
  | @enter ticket free =>
    refine h.poll ticket (field_update_same (fun _ s => s.ticket?) (hσ ▸ rfl)) fun k other hk => ?_
    rw [field_update fun _ s => s.guard?] at hk
    split at hk
    · cases hk
      exact Or.inr ⟨rfl, free⟩
    · exact Or.inl hk
  | begin => exact same rfl rfl id
  | refuse => exact same rfl rfl id
  | @work _ _ _ within => exact same rfl rfl within.1.not_isLocking
  | leave => exact h.leave (hσ ▸ rfl) rfl
  | giveUp => exact h.leave (hσ ▸ rfl) rfl
  | @finish _ _ _ within _ => exact same rfl rfl within.1.not_isLocking

end Crowd

end TenantBilling
