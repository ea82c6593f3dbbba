import TenantBilling.Proofs.Insensitivity
import TenantBilling.Proofs.Tickets

/-! Deliveries that overlap come to the same as deliveries one at a time, in the order in which
they acquired the lock of their organization. Between two holders of the lock the world looks
as the deliveries so far leave it when they are made in turn; while one holds the lock, doing
the rest of its work at once would leave a world that looks as its own delivery would. -/

namespace TenantBilling

open Calendar

/-- The answer of a delivery. -/
def Entry.answer? (e : Entry) : Option (Except Failure DeliveryOutcome) :=
  match e.reply with
  | .delivery r => some r
  | _ => none

/-- Deliveries of events one at a time. -/
def inTurn {ι : Type} (events : ι → TenantEvent) (order : List ι) : List Operation :=
  order.map fun i => .deliver (events i).toEvent

namespace World
variable {w : World} {ι : Type} {events : ι → TenantEvent}

theorem history_append (w : World) (ops rest : List Operation) :
    w.history (ops ++ rest) = w.history ops ++ (w.after ops).history rest := by
  induction ops generalizing w with
  | nil => rfl
  | cons op ops ih => exact congrArg (w.entry op :: ·) (ih _)

theorem after_inTurn_concat (w : World) (events : ι → TenantEvent) (past : List ι) (i : ι) :
    w.after (inTurn events (past ++ [i])) =
      ((w.after (inTurn events past)).run (Delivery.handle (events i).toEvent)).2 := by
  unfold inTurn
  rw [List.map_append, after_append]
  rfl

theorem answers_inTurn_concat (w : World) (events : ι → TenantEvent) (past : List ι) (i : ι) :
    (w.history (inTurn events (past ++ [i]))).map (·.answer?) =
      (w.history (inTurn events past)).map (·.answer?) ++
        [some ((w.after (inTurn events past)).run (Delivery.handle (events i).toEvent)).1] := by
  unfold inTurn
  rw [List.map_append, history_append, List.map_append]
  rfl

/-- Whether the ledger was never told of an event. -/
def Unseen (w : World) (id : String) : Prop := w.ledger.ledger.entries.get? id = none

theorem Unseen.hasMark {id : String} (h : w.Unseen id) : w.hasMark id = false := by
  unfold World.hasMark Ledger.isMarked
  rw [h]

theorem Smooth.after_inTurn (h : w.Smooth) (events : ι → TenantEvent) (past : List ι) :
    (w.after (inTurn events past)).Smooth := by
  induction past generalizing w with
  | nil => exact h
  | cons i past ih => exact ih (h.runProc (Delivery.handle (events i).toEvent).run)

/-- The deliveries of other events do not mark an event. -/
theorem Unseen.after_inTurn {id : String} (h : w.Unseen id) {past : List ι}
    (others : ∀ i ∈ past, (events i).id ≠ id) : (w.after (inTurn events past)).Unseen id := by
  induction past generalizing w with
  | nil => exact h
  | cons i past ih =>
    refine ih ?_ fun j hj => others j (List.mem_cons_of_mem _ hj)
    unfold Unseen
    by_contra hne
    obtain ⟨m, hm⟩ := Option.ne_none_iff_exists'.mp hne
    rcases get?_of_handle rfl hm with hbefore | ⟨hid, -⟩
    · rw [h] at hbefore
      cases hbefore
    · exact others i List.mem_cons_self hid

/-- A call that does not mark an event leaves it unseen. -/
theorem Unseen.answer {id : String} (h : w.Unseen id) (calm : w.Calm) {q : Call}
    (hq : q ≠ .ledger (.mark id)) : (w.answer q).2.Unseen id := by
  cases q with
  | ledger c =>
    obtain ⟨-, hl⟩ := calm.ledger.answer_ledger w.clock c
    rw [answer_ledger calm.pool]
    unfold Unseen
    cases c with
    | isMarked other =>
      rw [hl]
      exact h
    | mark other =>
      rw [hl]
      refine (Table.get?_insert_of_ne _ _ ?_).trans h
      rintro rfl
      exact hq rfl
    | purge =>
      by_contra hne
      obtain ⟨m, hm⟩ := Option.ne_none_iff_exists'.mp hne
      have hbefore := LedgerDesk.get?_of_answer_purge hm
      rw [h] at hbefore
      cases hbefore
  | store c =>
    rw [answer_store calm.pool]
    exact h
  | _ => exact h

end World

namespace Crowd
open Delivery World
variable {ι : Type} {events : ι → TenantEvent} {w u v : World} {i : ι}

/-- Results of the same kind, follow-up work apart. -/
abbrev SameKind : Except Failure (Option CustomerBackfill) →
    Except Failure (Option CustomerBackfill) → Prop := SameResult fun _ _ => True

/-- Deliveries that overlapped, told as deliveries in turn. Those in `past` let the lock go in
this order, and are going to give these answers; `order` is the order in which the lock was
acquired. At most one more delivery holds the lock, and has the rest of its work to do. -/
structure Linear (w : World) (events : ι → TenantEvent)
    (rest : ι → Option (Proc (Except Failure (Option CustomerBackfill))))
    (answer : ι → Option (Except Failure DeliveryOutcome)) (past order : List ι) (u : World) :
    Prop where
  nodup : past.Nodup
  mem_past : ∀ i, i ∈ past ↔ answer i ≠ none
  answers : (w.history (inTurn events past)).map (·.answer?) = past.map answer
  idle : (∀ i, rest i = none) → order = past ∧ (w.after (inTurn events past)).Seen u
  busy : ∀ i p, rest i = some p → order = past ++ [i] ∧ p.Alike SameKind p ∧
    answerTo (u.runProc p).1 =
      ((w.after (inTurn events past)).run (handle (events i).toEvent)).1 ∧
    (w.after (inTurn events (past ++ [i]))).Seen (u.runProc p).2

variable {rest : ι → Option (Proc (Except Failure (Option CustomerBackfill)))}
  {answer : ι → Option (Except Failure DeliveryOutcome)} {past order : List ι}

theorem Linear.start (w : World) (events : ι → TenantEvent) :
    Linear w events (fun _ => none) (fun _ => none) [] [] w where
  nodup := .nil
  mem_past _ := iff_of_false List.not_mem_nil fun h => h rfl
  answers := rfl
  idle _ := ⟨rfl, .refl w⟩
  busy _ _ h := nomatch h

/-- What happens aside does not matter to the work of the delivery that holds the lock. -/
theorem Linear.aside (h : Linear w events rest answer past order u) (seen : u.Seen v)
    (hu : u.Smooth) (hv : v.Smooth) : Linear w events rest answer past order v where
  nodup := h.nodup
  mem_past := h.mem_past
  answers := h.answers
  idle none := ⟨(h.idle none).1, (h.idle none).2.trans seen⟩
  busy i p hp := by
    obtain ⟨horder, alike, ends, leaves⟩ := h.busy i p hp
    obtain ⟨same, seen⟩ := seen.runProc alike hu hv
    exact ⟨horder, alike, (answerTo_congr same).symm.trans ends, leaves.trans seen⟩

variable [DecidableEq ι]

/-- A delivery acquires the lock, and has all of its work to do. -/
theorem Linear.enter (h : Linear w events rest answer past order u) (hw : w.Smooth)
    (hu : u.Smooth) (unseen : ∀ i, w.Unseen (events i).id)
    (distinct : Function.Injective fun i => (events i).id) (idle : ∀ k, rest k = none)
    (hi : answer i = none) :
    Linear w events (Function.update rest i (some (work (events i).toEvent).run)) answer past
      (order ++ [i]) u where
  nodup := h.nodup
  mem_past := h.mem_past
  answers := h.answers
  idle none := by
    have hnone := none i
    rw [Function.update_self] at hnone
    cases hnone
  busy k p hp := by
    rw [Function.update_apply] at hp
    split at hp
    · rename_i hk
      subst hk
      cases hp
      obtain ⟨rfl, seen⟩ := h.idle idle
      have notPast : k ∉ order := fun hk => (h.mem_past k).mp hk hi
      have others (j : ι) (hj : j ∈ order) : (events j).id ≠ (events k).id :=
        fun hid => notPast (distinct hid ▸ hj)
      have new := ((unseen k).after_inTurn others).hasMark
      have smooth := hw.after_inTurn events order
      obtain ⟨ends, leaves⟩ := smooth.run_handle new
      obtain ⟨same, alike⟩ := seen.runProc (work_alike (events k)) smooth hu
      refine ⟨rfl, work_alike (events k), (answerTo_congr same).symm.trans ends.symm, ?_⟩
      rw [after_inTurn_concat]
      exact leaves.symm.trans alike
    · rw [idle k] at hp
      cases hp

/-- The delivery that holds the lock makes a call of its work. -/
theorem Linear.work (h : Linear w events rest answer past order u) {q : Call}
    {next : q.Answer → Proc (Except Failure (Option CustomerBackfill))}
    (hi : rest i = some (.call q next)) :
    Linear w events (Function.update rest i (some (next (u.answer q).1))) answer past order
      (u.answer q).2 where
  nodup := h.nodup
  mem_past := h.mem_past
  answers := h.answers
  idle none := by
    have hnone := none i
    rw [Function.update_self] at hnone
    cases hnone
  busy k p hp := by
    obtain ⟨horder, alike, ends, leaves⟩ := h.busy i _ hi
    rw [Function.update_apply] at hp
    split at hp
    · rename_i hk
      subst hk
      cases hp
      refine ⟨horder, ?_, ends, leaves⟩
      cases alike with
      | call _ same => exact same _ _ (Call.sameAnswer_refl _ _)
    · rename_i hk
      have hsame := horder.symm.trans (h.busy k p hp).1
      exact absurd (List.append_cancel_left hsame) fun hc => hk (List.cons.inj hc).1.symm

/-- The delivery that holds the lock has done its work, and lets the lock go. -/
theorem Linear.leave (h : Linear w events rest answer past order u)
    {done : Except Failure (Option CustomerBackfill)} (hi : rest i = some (.done done))
    (hnone : answer i = none) :
    Linear w events (Function.update rest i none)
      (Function.update answer i (some (answerTo done))) (past ++ [i]) order u := by
  obtain ⟨horder, -, ends, leaves⟩ := h.busy i _ hi
  have notPast : i ∉ past := fun hmem => (h.mem_past i).mp hmem hnone
  refine ⟨?_, fun k => ?_, ?_, fun _ => ⟨horder, leaves⟩, fun k p hp => ?_⟩
  · rw [List.nodup_append]
    refine ⟨h.nodup, List.nodup_singleton i, ?_⟩
    rintro k hk l hl rfl
    exact notPast (List.mem_singleton.mp hl ▸ hk)
  · rw [List.mem_append, List.mem_singleton, h.mem_past, Function.update_apply]
    by_cases hk : k = i
    · simp [hk]
    · simp [hk]
  · have others : past.map (Function.update answer i (some (answerTo done))) = past.map answer :=
      List.map_congr_left fun k hk =>
        Function.update_of_ne (fun hki : k = i => notPast (hki ▸ hk)) _ _
    rw [answers_inTurn_concat, h.answers, ← ends, List.map_append, others]
    simp only [List.map_cons, List.map_nil, Function.update_self, World.runProc]
  · rw [Function.update_apply] at hp
    split at hp
    · cases hp
    · rename_i hk
      have hsame := horder.symm.trans (h.busy k p hp).1
      exact absurd (List.append_cancel_left hsame) fun hc => hk (List.cons.inj hc).1.symm

end Crowd

/-! ## Stages -/

namespace Delivery.Stage
variable {e : TenantEvent}

/-- What is left of the work of a delivery that holds the lock. -/
def rest? : Stage e → Option (Proc (Except Failure (Option CustomerBackfill)))
  | .entered _ => some (work e.toEvent).run
  | .working _ rest _ => some rest
  | _ => none

/-- What a delivery that let the lock go is going to answer. -/
def answer? : Stage e → Option (Except Failure DeliveryOutcome)
  | .finishing done _ _ _ => some (answerTo done)
  | _ => none

/-- A delivery marks nothing but its own event, and only after it let the lock go. -/
theorem Advance.mark {w : World} {s s' : Stage e} {id : String}
    (h : s.Advance w (.ledger (.mark id)) s') : id = e.id ∧ s'.answer? ≠ none := by
  cases h with
  | @work _ _ _ within => cases within.1
  | @finish _ _ _ within _ => exact ⟨within.1, nofun⟩

end Delivery.Stage

namespace Crowd
open Delivery World
variable {ι : Type} {events : ι → TenantEvent} {w : World} {address : String}
  {σ : (i : ι) → Stage (events i)} {c : Crowd ι (Except Failure DeliveryOutcome)}
  {past : List ι} {i : ι}

/-- What deliveries of new events of one organization keep when they overlap. -/
structure Serial (w : World) (address : String) (σ : (i : ι) → Stage (events i))
    (past : List ι) (c : Crowd ι (Except Failure DeliveryOutcome)) : Prop where
  tasks : ∀ i, c.tasks i = (σ i).program
  smooth : c.world.Smooth
  locked : Locked address σ c.world
  unseen : ∀ i, (σ i).answer? = none → c.world.Unseen (events i).id
  new : ∀ i, (σ i).told? ≠ some true
  linear : Linear w events (fun i => (σ i).rest?) (fun i => (σ i).answer?) past c.order c.world

theorem order_concat (c : Crowd ι (Except Failure DeliveryOutcome)) (i : ι) {q : Call}
    (hq : ∀ ticket, q ≠ .acquire ticket) (u : World)
    (tasks : ι → Proc (Except Failure DeliveryOutcome)) :
    order ⟨u, tasks, c.log ++ [(i, q)]⟩ = c.order := by
  unfold order
  rw [List.filterMap_append]
  cases q with
  | acquire ticket => exact absurd rfl (hq ticket)
  | _ => exact List.append_nil _

theorem Serial.start (smooth : w.Smooth) (locks : w.locks.Sound)
    (issued : ∀ c ∈ w.locks.callers, c.handle < w.nextTicket)
    (unseen : ∀ i, w.Unseen (events i).id) :
    Serial w address (fun i => (Stage.fresh : Stage (events i))) [] (deliveries w events) where
  tasks i := (events i).handle_run
  smooth := smooth
  locked := ⟨locks, issued, fun _ _ => nofun, fun _ _ => nofun, fun _ _ _ => nofun⟩
  unseen i _ := unseen i
  new _ := nofun
  linear := .start w events

/-- A turn in which no delivery goes on. -/
theorem Serial.idle (h : Serial w address σ past c) {u : World} (seen : c.world.Seen u)
    (smooth : u.Smooth) (locked : Locked address σ u)
    (same : u.ledger.ledger = c.world.ledger.ledger) :
    Serial w address σ past { c with world := u } where
  tasks := h.tasks
  smooth := smooth
  locked := locked
  unseen i hi := by
    have unseen := h.unseen i hi
    unfold Unseen at unseen ⊢
    rw [same]
    exact unseen
  new := h.new
  linear := h.linear.aside seen h.smooth smooth

/-- A delivery that has ended let the lock go, and answers what it was going to answer. -/
theorem Serial.ended (h : Serial w address σ past c) {r : Except Failure DeliveryOutcome}
    (hi : (c.tasks i).result? = some r) : (σ i).answer? = some r ∧ (σ i).rest? = none := by
  have program := (h.tasks i).symm.trans (Proc.result?_eq_some hi)
  rcases Stage.program_eq_done program with ⟨hs, -⟩ | ⟨done, rest, within, ends, hs, rfl⟩
  · exact absurd (by rw [hs]; rfl) (h.new i)
  · rw [hs]
    exact ⟨rfl, rfl⟩

variable [DecidableEq ι]

/-- The fields of the stages that count, after one delivery came to another stage. -/
theorem linear_update (σ : (i : ι) → Stage (events i)) (s : Stage (events i)) {u : World}
    {order : List ι}
    (linear : Linear w events (Function.update (fun i => (σ i).rest?) i s.rest?)
      (Function.update (fun i => (σ i).answer?) i s.answer?) past order u) :
    Linear w events (fun k => (Function.update σ i s k).rest?)
      (fun k => (Function.update σ i s k).answer?) past order u := by
  have rests : (fun k => (Function.update σ i s k).rest?) =
      Function.update (fun i => (σ i).rest?) i s.rest? := by
    funext k
    rw [field_update fun _ s => s.rest?, Function.update_apply]
  have answers : (fun k => (Function.update σ i s k).answer?) =
      Function.update (fun i => (σ i).answer?) i s.answer? := by
    funext k
    rw [field_update fun _ s => s.answer?, Function.update_apply]
  rw [rests, answers]
  exact linear

/-- All but the order is kept by whatever a delivery does in a turn. -/
theorem Serial.advance (h : Serial w address σ past c) (home : (events i).address = address)
    (distinct : Function.Injective fun i => (events i).id) {q : Call} {s : Stage (events i)}
    (advance : (σ i).Advance c.world q s) (unanswered : s.answer? = none → (σ i).answer? = none)
    (new : s.told? ≠ some true) {past' : List ι}
    (linear : Linear w events (Function.update (fun i => (σ i).rest?) i s.rest?)
      (Function.update (fun i => (σ i).answer?) i s.answer?) past'
      (order ⟨(c.world.answer q).2, c.tasks, c.log ++ [(i, q)]⟩) (c.world.answer q).2) :
    Serial w address (Function.update σ i s) past' ⟨(c.world.answer q).2,
      Function.update c.tasks i s.program, c.log ++ [(i, q)]⟩ := by
  refine ⟨tasks_update h.tasks i s, h.smooth.answer q, h.locked.advance home advance,
    fun k hk => ?_, fun k => ?_, linear_update σ s linear⟩
  · have unseen : c.world.Unseen (events k).id := by
      refine h.unseen k ?_
      rw [field_update fun _ s => s.answer?] at hk
      split at hk
      · rename_i hki
        exact hki ▸ unanswered hk
      · exact hk
    refine unseen.answer h.smooth.toCalm ?_
    rintro rfl
    obtain ⟨hid, hs⟩ := advance.mark
    have hki : k = i := distinct hid
    subst hki
    rw [Function.update_self] at hk
    exact hs hk
  · rw [field_update fun _ s => s.told?]
    split
    · exact new
    · exact h.new k

theorem answers_update {s : Stage (events i)} (h : s.answer? = (σ i).answer?) :
    Function.update (fun i => (σ i).answer?) i s.answer? = fun i => (σ i).answer? :=
  Function.update_eq_self_iff.mpr h

/-- A turn that is not about the work of the delivery or about its lock. -/
theorem Serial.aside (h : Serial w address σ past c) {q : Call} {s : Stage (events i)}
    (hq : q.IsAside) (acquires : ∀ ticket, q ≠ .acquire ticket)
    (rest : s.rest? = (σ i).rest?) (answer : s.answer? = (σ i).answer?) :
    Linear w events (Function.update (fun i => (σ i).rest?) i s.rest?)
      (Function.update (fun i => (σ i).answer?) i s.answer?) past
      (order ⟨(c.world.answer q).2, c.tasks, c.log ++ [(i, q)]⟩) (c.world.answer q).2 := by
  rw [Function.update_eq_self_iff.mpr rest, answers_update answer, order_concat c i acquires]
  exact h.linear.aside (h.smooth.seen_answer hq) h.smooth (h.smooth.answer q)

/-- A delivery acquires the lock. -/
theorem Serial.enter (h : Serial w address σ past c) (home : (events i).address = address)
    (hw : w.Smooth) (unseen : ∀ i, w.Unseen (events i).id)
    (distinct : Function.Injective fun i => (events i).id) {ticket : Nat}
    (hi : σ i = .waiting ticket) (free : (c.world.locks.poll ticket).2 = true) :
    Serial w address (Function.update σ i (.entered ticket)) past
      ⟨(c.world.answer (.acquire ticket)).2,
        Function.update c.tasks i (Stage.entered ticket : Stage (events i)).program,
        c.log ++ [(i, .acquire ticket)]⟩ := by
  have advance : (σ i).Advance c.world (.acquire ticket) (.entered ticket) := hi ▸ .enter free
  have locked := h.locked.advance home advance
  have idle (k : ι) : (σ k).rest? = none := by
    cases hk : (σ k).rest? with
    | none => rfl
    | some p =>
      have hki : k ≠ i := by
        rintro rfl
        rw [hi] at hk
        cases hk
      obtain ⟨t, guard⟩ : ∃ t, (σ k).guard? = some t := by
        cases hs : σ k <;> rw [hs] at hk <;> first | exact ⟨_, rfl⟩ | cases hk
      have here : (Function.update σ i (.entered ticket) i).guard? = some ticket := by
        rw [Function.update_self]
        rfl
      have there : (Function.update σ i (.entered ticket) k).guard? = some t := by
        rw [Function.update_of_ne hki]
        exact guard
      exact absurd (locked.alone there here) hki
  have unanswered : (σ i).answer? = none := by
    rw [hi]
    rfl
  refine h.advance home distinct advance (fun _ => unanswered) nofun ?_
  have order : order ⟨(c.world.answer (.acquire ticket)).2, c.tasks,
      c.log ++ [(i, .acquire ticket)]⟩ = c.order ++ [i] := by
    unfold order
    rw [List.filterMap_append]
    rfl
  have entered := h.linear.aside (h.smooth.seen_answer (q := .acquire ticket) trivial) h.smooth
    (h.smooth.answer _)
  have same : (Stage.entered ticket : Stage (events i)).answer? = (σ i).answer? := unanswered.symm
  rw [order, answers_update same]
  exact entered.enter hw (h.smooth.answer _) unseen distinct idle unanswered

/-- A delivery goes on. -/
theorem Serial.goes (h : Serial w address σ past c) (home : (events i).address = address)
    (hw : w.Smooth) (unseen : ∀ i, w.Unseen (events i).id)
    (distinct : Function.Injective fun i => (events i).id) {q : Call} {s : Stage (events i)}
    (advance : (σ i).Advance c.world q s) :
    ∃ past', Serial w address (Function.update σ i s) past' ⟨(c.world.answer q).2,
      Function.update c.tasks i s.program, c.log ++ [(i, q)]⟩ := by
  have go := h.advance home distinct advance
  have unmarked : (σ i).answer? = none → c.world.hasMark (events i).id = false :=
    fun hi => (h.unseen i hi).hasMark
  generalize hσ : σ i = s₀ at advance go unmarked
  cases advance with
  | pass => exact ⟨past, go (fun _ => rfl) nofun (h.aside trivial nofun (hσ ▸ rfl) (hσ ▸ rfl))⟩
  | skip known => cases (unmarked rfl).symm.trans known
  | join => exact ⟨past, go (fun _ => rfl) nofun (h.aside trivial nofun (hσ ▸ rfl) (hσ ▸ rfl))⟩
  | enter free => exact ⟨past, h.enter home hw unseen distinct hσ free⟩
  | begin => exact ⟨past, go (fun _ => rfl) nofun (h.aside trivial nofun (hσ ▸ rfl) (hσ ▸ rfl))⟩
  | refuse known => cases (unmarked rfl).symm.trans known
  | @work ticket q next within =>
    refine ⟨past, go (fun _ => rfl) nofun ?_⟩
    have acquires (ticket : Nat) : q ≠ .acquire ticket := by
      rintro rfl
      cases within.1
    have rest : (σ i).rest? = some (.call q next) := hσ ▸ rfl
    have unanswered : (σ i).answer? = none := hσ ▸ rfl
    have same : (Stage.working ticket (next (c.world.answer q).1) (within.2 _) :
        Stage (events i)).answer? = (σ i).answer? := unanswered.symm
    rw [order_concat c i acquires, answers_update same]
    exact h.linear.work rest
  | @leave ticket done within =>
    have rest : (σ i).rest? = some (.done done) := hσ ▸ rfl
    have unanswered : (σ i).answer? = none := hσ ▸ rfl
    have left := h.linear.leave rest unanswered
    have acquires (other : Nat) : Call.release ticket ≠ .acquire other := nofun
    refine ⟨past ++ [i], go nofun nofun ?_⟩
    rw [order_concat c i acquires]
    exact left.aside (h.smooth.seen_answer (q := .release ticket) trivial) h.smooth
      (h.smooth.answer _)
  | giveUp => exact absurd (by rw [hσ]; rfl) (h.new i)
  | @finish done q next within ends =>
    have aside := Call.IsClosing.isAside q within.1
    refine ⟨past, go nofun nofun (h.aside aside ?_ (hσ ▸ rfl) (hσ ▸ rfl))⟩
    rintro ticket rfl
    cases within.1

theorem Serial.step (h : Serial w address σ past c)
    (home : ∀ i, (events i).address = address) (hw : w.Smooth)
    (unseen : ∀ i, w.Unseen (events i).id)
    (distinct : Function.Injective fun i => (events i).id) (turn : Turn ι) :
    ∃ (σ' : (i : ι) → Stage (events i)) (past' : List ι),
      Serial w address σ' past' (c.step turn) := by
  cases turn with
  | evictLocks =>
    have smooth : c.world.evictLocks.2.Smooth :=
      ⟨⟨h.smooth.pool, h.smooth.store, h.smooth.ledger⟩, h.smooth.provider⟩
    have seen : c.world.Seen c.world.evictLocks.2 := ⟨rfl, rfl, rfl, rfl, fun _ => rfl⟩
    exact ⟨σ, past, h.idle seen smooth h.locked.evict rfl⟩
  | task i =>
    have turned := turned h.smooth.pool h.smooth.ledger (h.tasks i)
    generalize c.step (.task i) = d at turned
    cases turned with
    | ended => exact ⟨σ, past, h⟩
    | @waits ticket stage taken =>
      have locked : Locked address σ (c.world.answer (.acquire ticket)).2 :=
        h.locked.poll ticket (fun _ => rfl) fun _ _ guard => Or.inl guard
      have seen := h.smooth.seen_answer (q := .acquire ticket) trivial
      exact ⟨σ, past, h.idle seen (h.smooth.answer _) locked rfl⟩
    | goes advance =>
      obtain ⟨past', h'⟩ := h.goes (home i) hw unseen distinct advance
      exact ⟨_, past', h'⟩

end Crowd

namespace World
variable {ι : Type} {events : ι → TenantEvent} {w : World}

theorem delivered_inTurn (w : World) (events : ι → TenantEvent) (order : List ι) :
    w.delivered (inTurn events order) = order.map fun i => (events i).toEvent := by
  induction order generalizing w with
  | nil => rfl
  | cons i order ih =>
    have hcons := delivered_cons w (.deliver (events i).toEvent) (inTurn events order)
    rw [ih] at hcons
    exact hcons

/-- The record of an organization after deliveries in turn, in closed form. -/
theorem inTurn_closedForm {address : String} {order : List ι} {org : Organization} {plan : Plan}
    (calm : w.Calm) (sound : w.store.Sound) (orderly : w.store.Orderly plan)
    (stored : w.store.organization? address = some org) (nodup : order.Nodup)
    (distinct : Function.Injective fun i => (events i).id)
    (unseen : ∀ i, w.Unseen (events i).id)
    (named : ∀ i e, (events i).kind = .subscription e → e.subscriptionId ≠ "") :
    ∃ org', (w.after (inTurn events order)).store.organization? address = some org' ∧
      ClosedForm w.store org.subscription plan (w.accepted (inTurn events order) address)
        org'.subscription := by
  have recorded : w.Recorded w.store address org.subscription plan [] :=
    ⟨sound, .refl _, org, stored, .nil _ _ _⟩
  have hops : ∀ op ∈ inTurn events order, op.IsDelivery := by
    intro op hop
    obtain ⟨i, -, rfl⟩ := List.mem_map.mp hop
    trivial
  have fresh : w.Fresh (inTurn events order) := by
    refine ⟨?_, fun event hevent => ?_⟩
    · rw [delivered_inTurn, List.map_map]
      exact nodup.map distinct
    · rw [delivered_inTurn] at hevent
      obtain ⟨i, -, rfl⟩ := List.mem_map.mp hevent
      exact unseen i
  have hnamed : ∀ event ∈ w.delivered (inTurn events order), ∀ e,
      event.kind = .subscription e → e.subscriptionId ≠ "" := by
    intro event hevent
    rw [delivered_inTurn] at hevent
    obtain ⟨i, -, rfl⟩ := List.mem_map.mp hevent
    exact named i
  obtain ⟨org', horg', told⟩ := (recorded.after calm sound orderly hops fresh hnamed).record
  exact ⟨org', horg', told.closedForm⟩

end World

namespace Crowd
open Delivery World
variable {ι : Type} [DecidableEq ι] {w : World} {address : String}

/-- Deliveries of new events of one organization that overlap in any way, and have all ended,
come to the same as the deliveries one at a time, in the order in which they acquired the lock:
the store is the same and so is every answer. So the record is what its events make of it one
after the other, and no event takes half of what another one wrote. -/
theorem serializable (smooth : w.Smooth) (locks : w.locks.Reachable)
    (issued : ∀ c ∈ w.locks.callers, c.handle < w.nextTicket) (events : ι → TenantEvent)
    (home : ∀ i, (events i).address = address)
    (distinct : Function.Injective fun i => (events i).id)
    (unseen : ∀ i, w.Unseen (events i).id) (schedule : List (Turn ι))
    (ended : ∀ i, (((deliveries w events).after schedule).tasks i).result? ≠ none) :
    let c := (deliveries w events).after schedule
    let serial := inTurn events c.order
    (c.order.Nodup ∧ ∀ i, i ∈ c.order) ∧ c.world.store = (w.after serial).store ∧
      (w.history serial).map (·.answer?) = (c.order.map fun i => (c.tasks i).result?) ∧
      ∀ org plan, w.store.Sound → w.store.Orderly plan →
        w.store.organization? address = some org →
        (∀ i e, (events i).kind = .subscription e → e.subscriptionId ≠ "") →
        ∃ org', c.world.store.organization? address = some org' ∧
          ClosedForm w.store org.subscription plan (w.accepted serial address)
            org'.subscription := by
  intro c serial
  obtain ⟨σ, past, h⟩ : ∃ (σ : (i : ι) → Stage (events i)) (past : List ι),
      Serial w address σ past c :=
    after_keeps (fun c => ∃ (σ : (i : ι) → Stage (events i)) (past : List ι),
        Serial w address σ past c)
      (fun c turn ⟨σ, past, h⟩ => h.step home smooth unseen distinct turn)
      ⟨_, _, .start smooth locks.sound issued unseen⟩ schedule
  have result (i : ι) : (σ i).answer? = (c.tasks i).result? ∧ (σ i).rest? = none := by
    obtain ⟨r, hr⟩ := Option.ne_none_iff_exists'.mp (ended i)
    rw [hr]
    exact h.ended hr
  obtain ⟨order, seen⟩ := h.linear.idle fun i => (result i).2
  have same : c.world.store = (w.after serial).store := by
    have hstore := seen.store
    rw [← order] at hstore
    exact hstore
  refine ⟨⟨order ▸ h.linear.nodup, fun i => ?_⟩, same, ?_, ?_⟩
  · rw [order, h.linear.mem_past, (result i).1]
    exact ended i
  · have answers := h.linear.answers
    rw [← order] at answers
    rw [answers]
    exact List.map_congr_left fun i _ => (result i).1
  · intro org plan sound orderly stored named
    rw [same]
    exact inTurn_closedForm smooth.toCalm sound orderly stored (order ▸ h.linear.nodup) distinct
      unseen named

/-- A subscription and a payment that take turns, with evictions in between, come to the
subscription and then the payment. -/
theorem subscribed_while_paying :
    let events : Fin 2 → TenantEvent := fun i =>
      if i = 0 then ⟨sampleSubscribed, "0xa1", rfl⟩ else ⟨samplePayment, "0xa1", rfl⟩
    let turns : List (Turn (Fin 2)) :=
      (List.replicate 20 [.task 0, .evictLocks, .task 1]).flatten
    let c := (deliveries World.sample events).after turns
    c.order = [0, 1] ∧ c.world.store =
      (World.sample.after [.deliver sampleSubscribed, .deliver samplePayment]).store := by
  intro events turns c
  have smooth : World.sample.Smooth := ⟨⟨rfl, rfl, rfl, rfl⟩, rfl⟩
  have home (i : Fin 2) : (events i).address = "0xa1" := by
    revert i
    decide
  have distinct : Function.Injective fun i => (events i).id := by
    intro i j
    revert i j
    decide +kernel
  have ended (i : Fin 2) :
      (((deliveries World.sample events).after turns).tasks i).result? ≠ none := by
    revert i
    decide +kernel
  have order : c.order = [0, 1] := by decide +kernel
  have hc : (deliveries World.sample events).after turns = c := rfl
  have serial : inTurn events [0, 1] =
      [.deliver sampleSubscribed, .deliver samplePayment] := rfl
  have same := (serializable smooth .empty (fun _ h => nomatch h) events home distinct
    (fun _ => rfl) turns ended).2.1
  rw [hc, order, serial] at same
  exact ⟨order, same⟩

end Crowd

end TenantBilling
