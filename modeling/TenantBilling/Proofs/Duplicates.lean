import Mathlib.Data.List.Basic
import TenantBilling.Proofs.ExactlyOnce
import TenantBilling.Proofs.Stages

/-! Deliveries of the same event that overlap. A delivery asks the ledger before it waits for
the lock and again when it holds it, but marks its event only after it let the lock go. So it
is kept from applying its event again if one of its questions comes after a mark, and otherwise
it is not: the lock alone does not keep two deliveries from applying the same event. -/

namespace TenantBilling

open Calendar

/-- A mark made now counts from now on. -/
theorem Ledger.isMarked_mark {l : Ledger} (life : 0 < l.ttl) (now : DateTime) (marked id : String) :
    (l.mark now marked).isMarked now id = true ↔ l.isMarked now id = true ∨ id = marked := by
  unfold Ledger.isMarked Ledger.mark
  simp only [Table.get?_insert]
  by_cases hid : id = marked
  · simp [hid, life]
  · simp [hid]

namespace World
variable {w : World} {ttl : Int}

/-- While no time passes and the ledger is not swept, an event is marked by a call for its mark
and by nothing else. -/
theorem Reliable.hasMark_answer (h : w.Reliable ttl) (life : 0 < ttl) {q : Call}
    (hq : q ≠ .ledger .purge) (id : String) :
    (w.answer q).2.hasMark id = true ↔ w.hasMark id = true ∨ q = .ledger (.mark id) := by
  cases q with
  | ledger c =>
    obtain ⟨-, hl⟩ := h.ledger.answer_ledger w.clock c
    rw [answer_ledger h.pool]
    unfold hasMark
    cases c with
    | isMarked other => simp [hl]
    | mark marked =>
      simp only [hl, Call.ledger.injEq, LedgerCall.mark.injEq]
      rw [Ledger.isMarked_mark (h.life ▸ life), eq_comm (a := id)]
    | purge => exact absurd rfl hq
  | store c =>
    rw [answer_store h.pool]
    exact (or_iff_left nofun).symm
  | _ => exact (or_iff_left nofun).symm

end World

namespace Crowd
open Delivery
variable {ι : Type} {log : List (ι × Call)} {i k : ι} {q : Call} {id : String}

/-- A delivery asks for an event after somebody marked it. -/
def AsksLate (log : List (ι × Call)) (id : String) (i : ι) : Prop :=
  ∃ j, [(j, Call.ledger (.mark id)), (i, Call.ledger (.isMarked id))].Sublist log

theorem asksLate_concat : AsksLate (log ++ [(k, q)]) id i ↔ AsksLate log id i ∨
    (k = i ∧ q = .ledger (.isMarked id) ∧ ∃ j, (j, Call.ledger (.mark id)) ∈ log) := by
  unfold AsksLate
  constructor
  · rintro ⟨j, h⟩
    obtain ⟨before, rest, hsplit, hbefore, hrest⟩ := List.sublist_append_iff.mp h
    rcases List.sublist_singleton.mp hrest with rfl | rfl
    · rw [List.append_nil] at hsplit
      exact Or.inl ⟨j, hsplit ▸ hbefore⟩
    · have hsplit : [(j, Call.ledger (.mark id))] ++ [(i, Call.ledger (.isMarked id))] =
          before ++ [(k, q)] := hsplit
      obtain ⟨rfl, hlast⟩ := List.append_inj' hsplit rfl
      obtain ⟨rfl, rfl⟩ := Prod.mk.inj (List.cons.inj hlast).1
      exact Or.inr ⟨rfl, rfl, j, List.singleton_sublist.mp hbefore⟩
  · rintro (⟨j, h⟩ | ⟨rfl, rfl, j, hj⟩)
    · exact ⟨j, h.trans (List.sublist_append_left _ _)⟩
    · exact ⟨j, (List.singleton_sublist.mpr hj).append (List.Sublist.refl [_])⟩

section Run
variable {w : World} {ttl : Int} {events : ι → TenantEvent}
  {σ : (i : ι) → Stage (events i)} {c : Crowd ι (Except Failure DeliveryOutcome)}

/-- What deliveries that overlap keep: what is marked was marked from the beginning or by one
of them, and a delivery that was told no more than once that its event is new asked before
every mark. -/
structure Asking (w : World) (ttl : Int) (σ : (i : ι) → Stage (events i))
    (c : Crowd ι (Except Failure DeliveryOutcome)) : Prop where
  tasks : ∀ i, c.tasks i = (σ i).program
  reliable : c.world.Reliable ttl
  marks : ∀ id, c.world.hasMark id = true ↔
    w.hasMark id = true ∨ ∃ j, (j, Call.ledger (.mark id)) ∈ c.log
  unasked : ∀ i, (σ i).told? = none → ¬AsksLate c.log (events i).id i
  told : ∀ i b, (σ i).told? = some b →
    (b = true ↔ w.hasMark (events i).id = true ∨ AsksLate c.log (events i).id i)

theorem Asking.start (h : w.Reliable ttl) :
    Asking w ttl (fun i => (Stage.fresh : Stage (events i))) (deliveries w events) where
  tasks i := (events i).handle_run
  reliable := h
  marks _ := (or_iff_left fun ⟨_, hj⟩ => nomatch hj).symm
  unasked _ _ := fun ⟨_, hj⟩ => nomatch hj
  told _ _ hb := nomatch hb

/-- A delivery that was told nothing else so far, and asks now, asks late if the event is
marked. -/
theorem Asking.asks (h : Asking w ttl σ c) (i : ι) (new : (σ i).told? ≠ some true) :
    c.world.hasMark (events i).id = true ↔ w.hasMark (events i).id = true ∨
      AsksLate (c.log ++ [(i, .ledger (.isMarked (events i).id))]) (events i).id i := by
  have before : AsksLate c.log (events i).id i → w.hasMark (events i).id = true := by
    intro late
    cases ht : (σ i).told? with
    | none => exact absurd late (h.unasked i ht)
    | some b =>
      have hb : b = true := (h.told i b ht).mpr (Or.inr late)
      exact absurd (ht.trans (congrArg some hb)) new
  rw [h.marks, asksLate_concat]
  constructor
  · rintro (marked | marked)
    · exact Or.inl marked
    · exact Or.inr (Or.inr ⟨rfl, rfl, marked⟩)
  · rintro (marked | late | ⟨-, -, marked⟩)
    · exact Or.inl marked
    · exact Or.inl (before late)
    · exact Or.inr marked

/-- A turn in which a delivery waits, or locks are evicted, is of no consequence. -/
theorem Asking.idle (h : Asking w ttl σ c) {u : World} (reliable : u.Reliable ttl)
    (same : u.hasMark = c.world.hasMark) : Asking w ttl σ { c with world := u } :=
  ⟨h.tasks, reliable, fun id => same ▸ h.marks id, h.unasked, h.told⟩

variable [DecidableEq ι]

theorem Asking.goes (h : Asking w ttl σ c) (life : 0 < ttl) {i : ι} {q : Call}
    {s : Stage (events i)} (advance : (σ i).Advance c.world q s) :
    Asking w ttl (Function.update σ i s) ⟨(c.world.answer q).2,
      Function.update c.tasks i s.program, c.log ++ [(i, q)]⟩ := by
  have others {k : ι} (hk : k ≠ i) :
      AsksLate (c.log ++ [(i, q)]) (events k).id k ↔ AsksLate c.log (events k).id k := by
    rw [asksLate_concat]
    exact or_iff_left fun hi => hk hi.1.symm
  refine ⟨tasks_update h.tasks i s, h.reliable.answer q, fun id => ?_, fun k hk => ?_,
    fun k b hb => ?_⟩
  · rw [h.reliable.hasMark_answer life advance.ne_purge, h.marks]
    have logged : (∃ j, (j, Call.ledger (.mark id)) ∈ c.log ++ [(i, q)]) ↔
        (∃ j, (j, Call.ledger (.mark id)) ∈ c.log) ∨ q = .ledger (.mark id) := by
      simp only [List.mem_append, List.mem_singleton, Prod.mk.injEq, exists_or, exists_eq_left,
        eq_comm (a := q)]
    rw [logged, or_assoc]
  · by_cases hi : k = i
    · subst hi
      rw [Function.update_self] at hk
      rcases advance.told with ⟨-, -, hs⟩ | ⟨-, hs, hne⟩
      · rw [hs] at hk
        cases hk
      · exact absurd (hs.symm.trans hk) hne
    · rw [Function.update_of_ne hi] at hk
      rw [others hi]
      exact h.unasked k hk
  · by_cases hi : k = i
    · subst hi
      rw [Function.update_self] at hb
      rcases advance.told with ⟨rfl, new, hs⟩ | ⟨hq, hs, -⟩
      · rw [hs] at hb
        rw [← Option.some.inj hb]
        exact h.asks k new
      · rw [asksLate_concat]
        rw [hs] at hb
        rw [h.told k b hb]
        simp [hq]
    · rw [Function.update_of_ne hi] at hb
      rw [others hi]
      exact h.told k b hb

theorem Asking.step (h : Asking w ttl σ c) (life : 0 < ttl) (turn : Turn ι) :
    ∃ σ' : (i : ι) → Stage (events i), Asking w ttl σ' (c.step turn) := by
  have reliable := h.reliable
  cases turn with
  | evictLocks => exact ⟨σ, h.idle ⟨reliable.pool, reliable.ledger, reliable.life⟩ rfl⟩
  | task i =>
    have turned := turned reliable.pool reliable.ledger (h.tasks i)
    generalize c.step (.task i) = d at turned
    cases turned with
    | ended => exact ⟨σ, h⟩
    | @waits ticket => exact ⟨σ, h.idle (reliable.answer (.acquire ticket)) rfl⟩
    | goes advance => exact ⟨_, h.goes life advance⟩

/-- In any interleaving of deliveries, one that has ended was kept from applying its event if
and only if the event was marked from the beginning, or by somebody before it asked for the
last time. So an event is applied once if of any two of its deliveries one asks after a mark;
the lock does not see to that, since the mark is made when it has been let go. -/
theorem kept_from_applying_iff (reliable : w.Reliable ttl) (life : 0 < ttl)
    (events : ι → TenantEvent) (schedule : List (Turn ι)) :
    let c := (deliveries w events).after schedule
    (∀ i r, c.tasks i = .done r → (r = .ok .alreadyProcessed ↔
      w.hasMark (events i).id = true ∨ AsksLate c.log (events i).id i)) ∧
    ∀ id, (∀ i j, i ≠ j → (events i).id = id → (events j).id = id →
        AsksLate c.log id i ∨ AsksLate c.log id j) →
      ∀ i j, (events i).id = id → (events j).id = id → c.tasks i = .done (.ok .processed) →
        c.tasks j = .done (.ok .processed) → i = j := by
  intro c
  obtain ⟨σ, asking⟩ : ∃ σ : (i : ι) → Stage (events i), Asking w ttl σ c :=
    after_keeps (fun c => ∃ σ : (i : ι) → Stage (events i), Asking w ttl σ c)
      (fun c turn ⟨σ, h⟩ => h.step life turn) ⟨_, .start reliable⟩ schedule
  have ended (i : ι) (r : Except Failure DeliveryOutcome) (hi : c.tasks i = .done r) :
      r = .ok .alreadyProcessed ↔
        w.hasMark (events i).id = true ∨ AsksLate c.log (events i).id i := by
    rcases Stage.program_eq_done ((asking.tasks i).symm.trans hi) with
      ⟨hs, rfl⟩ | ⟨done, rest, within, ends, hs, rfl⟩
    · exact iff_of_true rfl ((asking.told i true (by rw [hs]; rfl)).mp rfl)
    · have told := asking.told i false (by rw [hs]; rfl)
      refine iff_of_false ?_ fun late => Bool.false_ne_true (told.mpr late)
      cases done <;> nofun
  refine ⟨ended, fun id late i j hi hj appliedi appliedj => ?_⟩
  by_contra hne
  rcases late i j hne hi hj with late | late
  · subst hi
    cases (ended i _ appliedi).mpr (Or.inr late)
  · subst hj
    cases (ended j _ appliedj).mpr (Or.inr late)

/-- Of two deliveries of a payment, one after the other, the second one asks after the mark. -/
theorem payment_asked_late :
    let payment : TenantEvent := ⟨samplePayment, "0xa1", rfl⟩
    let turns : List (Turn (Fin 2)) := List.replicate 10 (.task 0) ++ List.replicate 10 (.task 1)
    let c := (deliveries World.sample fun _ => payment).after turns
    c.tasks 0 = .done (.ok .processed) ∧ c.tasks 1 = .done (.ok .alreadyProcessed) ∧
      AsksLate c.log "evt_1" 1 := by
  intro payment turns c
  have reliable : World.sample.Reliable 3600000000000 := ⟨rfl, ⟨rfl, rfl⟩, rfl⟩
  have hc : (deliveries World.sample fun _ => payment).after turns = c := rfl
  have kept := (kept_from_applying_iff reliable (by decide) (fun _ => payment) turns).1 1
  rw [hc] at kept
  have first : c.tasks 0 = .done (.ok .processed) := Proc.result?_eq_some (by decide +kernel)
  have second : c.tasks 1 = .done (.ok .alreadyProcessed) :=
    Proc.result?_eq_some (by decide +kernel)
  have unmarked : ¬World.sample.hasMark "evt_1" = true := by decide +kernel
  exact ⟨first, second, ((kept _ second).mp rfl).resolve_left unmarked⟩

/-- The beginning of a subscription is delivered twice, and its end once in between. The second
delivery of the beginning asks after the first one let the lock go and before that one made its
mark. Both apply the event, and the subscription that ended is live again. -/
theorem begun_again_after_its_end :
    let begins : TenantEvent := ⟨sampleSubscribed, "0xa1", rfl⟩
    let ends : TenantEvent := ⟨⟨"evt_3", "customer.subscription.deleted", 0,
      .subscription { sampleSubscription with status := .canceled }⟩, "0xa1", rfl⟩
    let c := (deliveries World.sample fun i : Fin 3 => if i = 2 then ends else begins).after
      (List.replicate 13 (.task 0) ++ List.replicate 20 (.task 2) ++
        List.replicate 20 (.task 1) ++ List.replicate 20 (.task 0))
    (∀ i, (c.tasks i).result? = some (.ok .processed)) ∧
      (c.world.store.organization? "0xa1").map (·.subscription.providerId) = some "sub_1" := by
  decide +kernel

end Run

end Crowd

end TenantBilling
