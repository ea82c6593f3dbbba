import TenantBilling.Proofs.Handling
import TenantBilling.Proofs.History

/-! An event takes effect once. After a delivery that had its event recorded, every other
delivery of the event finds it in the ledger for as long as a mark counts, and does nothing.
So the repeats can be taken out of a run, and the rest goes as it went. -/

namespace TenantBilling

open Calendar

/-- A repeat: the event of a delivery had been recorded before, and the mark made then would
still count. -/
def Entry.isRepeat (ttl : Int) (earlier : List Entry) (e : Entry) : Bool :=
  earlier.any fun f => match f.recorded?, e.event with
    | some id, some event => id == event.id && e.clock.instant - f.clock.instant < ttl
    | _, _ => false

theorem Entry.isRepeat_iff {ttl : Int} {earlier : List Entry} {e : Entry} :
    e.isRepeat ttl earlier = true ↔ ∃ f ∈ earlier, ∃ event, f.recorded? = some event.id ∧
      e.event = some event ∧ e.clock.instant - f.clock.instant < ttl := by
  unfold isRepeat
  rw [List.any_eq_true]
  constructor
  · rintro ⟨f, hf, h⟩
    split at h
    · rename_i id event hid hevent
      rw [Bool.and_eq_true, beq_iff_eq, decide_eq_true_eq] at h
      exact ⟨f, hf, event, h.1 ▸ hid, hevent, h.2⟩
    · cases h
  · rintro ⟨f, hf, event, hid, hevent, ht⟩
    refine ⟨f, hf, ?_⟩
    simp only [hid, hevent, beq_self_eq_true, Bool.true_and, decide_eq_true_eq]
    exact ht

/-- A history without its repeats; the entries before it stand in `earlier`. -/
def withoutRepeats (ttl : Int) : (earlier history : List Entry) → List Entry
  | _, [] => []
  | earlier, e :: history =>
    if e.isRepeat ttl earlier then withoutRepeats ttl (e :: earlier) history
    else e :: withoutRepeats ttl (e :: earlier) history

namespace World

/-- A world whose ledger is held in memory, can always be asked, and lets marks count for
so long. -/
structure Reliable (ttl : Int) (w : World) : Prop where
  pool : w.poolClosed = false
  ledger : w.ledger.IsPlain
  life : w.ledger.ledger.ttl = ttl

/-- An event is remembered from a time on: while a mark made then counts, the ledger has a
mark that is no older. -/
structure Remembers (ttl : Int) (id : String) (since : DateTime) (w : World) : Prop where
  past : since ≤ w.clock
  mark : w.clock.instant - since.instant < ttl →
    ∃ m, w.ledger.ledger.entries.get? id = some m ∧ since ≤ m

variable {w : World} {ttl : Int} {id : String} {since : DateTime}

theorem Reliable.answer (h : w.Reliable ttl) (c : Call) : (w.answer c).2.Reliable ttl := by
  cases c with
  | ledger c =>
    obtain ⟨hplain, hl⟩ := h.ledger.answer_ledger w.clock c
    rw [answer_ledger h.pool]
    refine ⟨h.pool, hplain, ?_⟩
    cases c with
    | isMarked other => exact hl ▸ h.life
    | mark other => exact hl ▸ h.life
    | purge =>
      cases hs : w.ledger.ledger.sweep? w.clock with
      | none =>
        rw [hs] at hl
        exact hl ▸ h.life
      | some p =>
        rw [hs] at hl
        exact hl ▸ (Ledger.ttl_of_sweep? hs).trans h.life
  | store c =>
    rw [answer_store h.pool]
    exact ⟨h.pool, h.ledger, h.life⟩
  | _ => exact ⟨h.pool, h.ledger, h.life⟩

/-- What counts is not lost in a call: a mark is added, or marks that no longer count are
dropped. -/
theorem Remembers.answer (h : w.Remembers ttl id since) (hw : w.Reliable ttl) (c : Call) :
    (w.answer c).2.Remembers ttl id since := by
  cases c with
  | ledger c =>
    obtain ⟨-, hl⟩ := hw.ledger.answer_ledger w.clock c
    rw [answer_ledger hw.pool]
    refine ⟨h.past, fun ht => ?_⟩
    obtain ⟨m, hm, hsince⟩ := h.mark ht
    cases c with
    | isMarked other => exact ⟨m, hl ▸ hm, hsince⟩
    | mark other =>
      simp only [hl, Ledger.mark, Table.get?_insert]
      by_cases hid : id = other
      · exact ⟨w.clock, if_pos hid, h.past⟩
      · exact ⟨m, by rw [if_neg hid, hm], hsince⟩
    | purge =>
      refine ⟨m, ?_, hsince⟩
      cases hs : w.ledger.ledger.sweep? w.clock with
      | none =>
        rw [hs] at hl
        exact hl ▸ hm
      | some p =>
        rw [hs] at hl
        have hcounts : w.clock.instant - m.instant < w.ledger.ledger.ttl := by
          have hlife := hw.life
          rw [DateTime.le_iff] at hsince
          dsimp only at ht
          omega
        exact hl ▸ Ledger.get?_sweep? hs hm hcounts
  | store c =>
    rw [answer_store hw.pool]
    exact ⟨h.past, h.mark⟩
  | _ => exact ⟨h.past, h.mark⟩

theorem Reliable.step (h : w.Reliable ttl) (op : Operation) : (w.step op).2.Reliable ttl := by
  refine step_keeps (Reliable ttl) (fun u c hu => hu.answer c) op (fun u hop hu => ?_) h
  cases op <;> first | exact ⟨hu.pool, hu.ledger, hu.life⟩ | cases hop

/-- Remembering goes on, whatever is done, unless the clock is set back. -/
theorem Remembers.step (h : w.Remembers ttl id since) (hw : w.Reliable ttl) {op : Operation}
    (hclock : w.clock ≤ op.clock w.clock) : (w.step op).2.Remembers ttl id since := by
  cases op with
  | setClock clock =>
    refine ⟨?_, fun ht => h.mark ?_⟩
    · have hpast := h.past
      rw [DateTime.le_iff] at hpast hclock ⊢
      exact Int.le_trans hpast hclock
    · rw [DateTime.le_iff] at hclock
      dsimp only [World.step, Operation.clock] at ht hclock
      omega
  | _ =>
    refine (step_keeps (fun u => u.Reliable ttl ∧ u.Remembers ttl id since)
      (fun u c hu => ⟨hu.1.answer c, hu.2.answer hu.1 c⟩) _ (fun u hop hu => ?_) ⟨hw, h⟩).2
    first
    | exact ⟨⟨hu.1.pool, hu.1.ledger, hu.1.life⟩, hu.2.past, hu.2.mark⟩
    | cases hop

theorem Reliable.after (h : w.Reliable ttl) (ops : List Operation) :
    (w.after ops).Reliable ttl :=
  after_keeps (Reliable ttl) (fun _ op _ hu => hu.step op) h

theorem Remembers.after (h : w.Remembers ttl id since) (hw : w.Reliable ttl)
    {ops : List Operation} (hops : NeverBack w.clock ops) :
    (w.after ops).Remembers ttl id since := by
  induction ops generalizing w with
  | nil => exact h
  | cons op ops ih =>
    refine ih (h.step hw hops.1) (hw.step op) ?_
    rw [clock_step]
    exact hops.2

theorem neverBack_after {ops rest : List Operation} (h : NeverBack w.clock (ops ++ rest)) :
    NeverBack w.clock ops ∧ NeverBack (w.after ops).clock rest := by
  induction ops generalizing w with
  | nil => exact ⟨trivial, h⟩
  | cons op ops ih =>
    have hop := clock_step w op
    obtain ⟨hback, hrest⟩ := h
    rw [← hop] at hrest
    obtain ⟨hops, hafter⟩ := ih hrest
    exact ⟨⟨hback, hop ▸ hops⟩, hafter⟩

/-- What is remembered is in the ledger. -/
theorem Remembers.isMarked (h : w.Remembers ttl id since) (hw : w.Reliable ttl)
    (ht : w.clock.instant - since.instant < ttl) :
    w.ledger.ledger.isMarked w.clock id = true := by
  obtain ⟨m, hm, hsince⟩ := h.mark ht
  have hlife := hw.life
  rw [DateTime.le_iff] at hsince
  simp only [Ledger.isMarked, hm, decide_eq_true_eq]
  omega

/-- A delivery of an event that the ledger has does nothing at all. -/
theorem Reliable.handle_of_isMarked (h : w.Reliable ttl) {event : Event}
    (hm : w.ledger.ledger.isMarked w.clock event.id = true) :
    w.run (Delivery.handle event) = (.ok .alreadyProcessed, w) := by
  unfold Delivery.handle
  rw [run_bind, run_ledger, answer_ledger h.pool, h.ledger.answer_isMarked, hm]
  rfl

/-- While an event is remembered, its deliveries do nothing. -/
theorem Remembers.step_again (h : w.Remembers ttl id since) (hw : w.Reliable ttl)
    {op : Operation} {event : Event} (he : w.event? op = some event) (hid : event.id = id)
    (ht : w.clock.instant - since.instant < ttl) :
    w.step op = (.delivery (.ok .alreadyProcessed), w) := by
  have hm := h.isMarked hw ht
  rw [← hid] at hm
  rw [step_of_event? he, hw.handle_of_isMarked hm]
  rfl

/-- An event that a delivery recorded is remembered from then on. -/
theorem Reliable.remembers (h : w.Reliable ttl) {op : Operation}
    (hr : (w.entry op).recorded? = some id) : (w.step op).2.Remembers ttl id w.clock := by
  obtain ⟨event, outcome, he, rfl, hrun, houtcome⟩ := entry_recorded?_iff.mp hr
  rw [step_of_event? he]
  have hclock := clock_run w (Delivery.handle event)
  rcases handled (Prod.ext hrun rfl) with ⟨-, handled⟩ | ⟨⟨f, hf⟩, -⟩
  rotate_left
  · cases hf
  have hl : (w.run (Delivery.handle event)).2.ledger.ledger =
      w.ledger.ledger.mark w.clock event.id :=
    (handled.marked houtcome).trans (Delivery.marked_of_isPlain h.ledger w.clock event.id)
  have hpast := Int.le_of_eq (congrArg DateTime.instant hclock).symm
  refine ⟨hpast, fun _ => ⟨w.clock, ?_, Int.le_refl _⟩⟩
  exact (congrArg (·.entries.get? event.id) hl).trans (Table.get?_insert_self _ _ _)

/-- Without its repeats a run goes as it went, given that what was recorded before it is
remembered. -/
theorem history_withoutRepeats {ops : List Operation} (hw : w.Reliable ttl)
    (hops : NeverBack w.clock ops) {earlier : List Entry}
    (known : ∀ f ∈ earlier, ∀ id, f.recorded? = some id → w.Remembers ttl id f.clock) :
    w.history ((withoutRepeats ttl earlier (w.history ops)).map (·.operation)) =
        withoutRepeats ttl earlier (w.history ops) ∧
      w.after ((withoutRepeats ttl earlier (w.history ops)).map (·.operation)) = w.after ops := by
  induction ops generalizing w earlier with
  | nil => exact ⟨rfl, rfl⟩
  | cons op ops ih =>
    have hclock := clock_step w op
    simp only [history, withoutRepeats, after]
    by_cases hrepeat : (w.entry op).isRepeat ttl earlier = true
    · -- the world is as it was, and nothing is recorded
      obtain ⟨f, hf, event, hid, hevent, ht⟩ := Entry.isRepeat_iff.mp hrepeat
      have hstep := (known f hf _ hid).step_again hw hevent rfl ht
      rw [if_pos hrepeat]
      have hback := hops.2
      rw [hstep] at hclock ⊢
      rw [← hclock] at hback
      refine ih hw hback fun g hg id hrecorded => ?_
      rcases List.mem_cons.mp hg with rfl | hg
      · simp [Entry.recorded?, entry, hstep] at hrecorded
      · exact known g hg id hrecorded
    · rw [if_neg hrepeat]
      have hback := hops.2
      rw [← hclock] at hback
      have hknown : ∀ f ∈ w.entry op :: earlier, ∀ id, f.recorded? = some id →
          (w.step op).2.Remembers ttl id f.clock := by
        intro f hf id hrecorded
        rcases List.mem_cons.mp hf with rfl | hf
        · exact hw.remembers hrecorded
        · exact (known f hf id hrecorded).step hw hops.1
      obtain ⟨hhistory, hafter⟩ := ih (hw.step op) hback hknown
      exact ⟨congrArg (w.entry op :: ·) hhistory, hafter⟩

/-- An event takes effect once. Another delivery of an event that was recorded, made while the
mark would still count, answers that it was processed and leaves the world as it is; and a
run without such repeats gives every other answer and ends in the same world. -/
theorem exactly_once {ops : List Operation} (reliable : w.Reliable ttl)
    (forward : NeverBack w.clock ops) :
    (∀ before first between again rest event,
      ops = before ++ first :: (between ++ again :: rest) →
      ((w.after before).entry first).recorded? = some event.id →
      let u := w.after (before ++ first :: between)
      u.event? again = some event →
      u.clock.instant - (w.after before).clock.instant < ttl →
      u.step again = (.delivery (.ok .alreadyProcessed), u)) ∧
    let kept := withoutRepeats ttl [] (w.history ops)
    w.history (kept.map (·.operation)) = kept ∧ w.after (kept.map (·.operation)) = w.after ops := by
  refine ⟨?_, history_withoutRepeats reliable forward fun f hf => nomatch hf⟩
  rintro before first between again rest event rfl recorded u hevent ht
  obtain ⟨-, -, hback⟩ := neverBack_after forward
  rw [← clock_step] at hback
  have hu : u = ((w.after before).step first).2.after between := after_append w before _
  have hw := reliable.after before
  have remembered := (hw.remembers recorded).after (hw.step first) (neverBack_after hback).1
  rw [← hu] at remembered
  exact remembered.step_again (reliable.after _) hevent rfl ht

/-- Half an hour and a sweep later, a payment that is delivered again is not applied again. -/
theorem payment_again :
    let later := { newYear 2024 (by decide) with second := 1800, second_lt := by decide }
    let u := World.sample.after [.deliver samplePayment, .setClock later, .sweep]
    u.step (.deliver samplePayment) = (.delivery (.ok .alreadyProcessed), u) := by
  intro later
  have reliable : sample.Reliable 3600000000000 := ⟨rfl, ⟨rfl, rfl⟩, rfl⟩
  have forward : NeverBack sample.clock [.deliver samplePayment, .setClock later, .sweep,
      .deliver samplePayment] := ⟨by decide, by decide, by decide, by decide, trivial⟩
  exact (exactly_once reliable forward).1 [] _ [.setClock later, .sweep] _ [] samplePayment
    rfl rfl rfl (by decide)

end World

end TenantBilling
