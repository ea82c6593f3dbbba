import TenantBilling.Delivery
import TenantBilling.Proofs.Frame
import TenantBilling.Proofs.Marks
import TenantBilling.Proofs.Settlement

/-! What a delivery comes to. An event is skipped, refused or settled. Only a settled event is
marked, and a mark is lost only when every attempt at it fails. -/

namespace TenantBilling

open Calendar

namespace Delivery

theorem yields_tryMark {mayFail : Prop} {n : Nat} {id : String} {s t : Scene} {u : Unit}
    (h : (tryMark n id).Yields mayFail s u t) :
    t = { s with ledger := s.ledger.tryMark s.clock id n } := by
  induction n generalizing s with
  | zero => exact h.2
  | succ n ih =>
    obtain ⟨a, v, ⟨rfl, rfl⟩, h⟩ := h
    unfold LedgerDesk.tryMark
    cases ha : s.ledger.answer s.clock (.mark id) with
    | mk a d =>
      rw [ha] at h
      cases a with
      | ok => exact h.2
      | error e => exact ih h

/-- The store after an event, when every call is answered; the error of an event that is
refused. The id is that of the snapshot the event may open. -/
def settle (s : Store) (now : DateTime) (p : Provider) (id : Uuid) :
    EventKind → Except BillingError Store
  | .subscription e =>
    (Reconcile.settleSubscription s now (p.resolve e.customer) id e).map (·.2)
  | .invoice e => (Reconcile.settleInvoice s e).map (·.2)
  | .product e => (Reconcile.settleProduct s (p.offer e.productId) e).map (·.2)
  | .unhandled => .ok s

/-- An active subscription is settled when its organization and its plan are there. -/
theorem settle_live {s : Store} {now : DateTime} {p : Provider} {id : Uuid} {e : SubscriptionEvent}
    {org : Organization} {plan : Plan} (live : Reconcile.effectOf e.status = .live)
    (stored : s.organization? e.address = some org)
    (sold : s.planOfProduct? e.productId = some plan) :
    settle s now p id (.subscription e) = .ok (Reconcile.liveStore s now id org e
      (Reconcile.liveSubscription e plan org.subscription (p.resolve e.customer))) := by
  simp only [settle, Reconcile.settleSubscription, stored, live, Reconcile.settleLive, sold,
    Except.map]

/-- What applying an event can come to. -/
inductive Applied (mayFail : Prop) (kind : EventKind) (s : Scene) {α : Type} :
    Except Failure α → Scene → Prop
  | settled {id a t} (done : settle s.store s.now s.provider id kind = .ok t.store) :
    Applied mayFail kind s (.ok a) t
  | rejected {id b t} (error : settle s.store s.now s.provider id kind = .error b)
    (same : t.store = s.store) : Applied mayFail kind s (.error (.error b)) t
  | interrupted {op t} (fails : mayFail) (same : t.store = s.store) :
    Applied mayFail kind s (.error (.storeDown op)) t
  | half {e f t} (event : kind = .subscription e) (half : HalfApplied mayFail s e f t.store) :
    Applied mayFail kind s (.error f) t

variable {mayFail : Prop} {s t : Scene}

theorem Applied.of_settled {α β : Type} {kind : EventKind} {x : Except BillingError (α × Store)}
    {r : Except Failure α} (f : α → β) (id : Uuid)
    (hx : settle s.store s.now s.provider id kind = x.map (·.2))
    (h : (r, t.store) = TenantBilling.settled x s.store ∨ Interrupted mayFail s.store r t.store) :
    Applied mayFail kind s (r.map f) t := by
  rcases h with h | ⟨hf, ⟨op, rfl⟩, ht⟩
  · cases x with
    | ok p =>
      obtain ⟨rfl, ht⟩ := Prod.mk.inj h
      exact .settled (by rw [hx, ht]; rfl)
    | error b =>
      obtain ⟨rfl, ht⟩ := Prod.mk.inj h
      exact .rejected (by rw [hx]; rfl) ht
  · exact .interrupted hf ht

/-- What is done for an event, under the lock that its kind calls for. -/
def work (event : Event) : Action (Option CustomerBackfill) :=
  match event.kind with
  | .subscription e => do return (← Reconcile.applySubscription e).followUp
  | .invoice e => do
    let _ ← Reconcile.applyInvoice e
    return none
  | .product e => do
    let _ ← Reconcile.applyProduct e
    return none
  | .unhandled => Action.fail (.invalidEvent ("no handler for " ++ event.type))

theorem work_within (event : Event) : (work event).Within Call.IsReconciling := by
  unfold work
  split
  · exact (Reconcile.applySubscription_within _).bind fun _ => Action.within_pure _
  · exact (Reconcile.applyInvoice_within _).bind fun _ => Action.within_pure _
  · exact (Reconcile.applyProduct_within _).bind fun _ => Action.within_pure _
  · exact Action.within_fail _

theorem gives_work {event : Event} {r : Except Failure (Option CustomerBackfill)}
    (hs : s.store.Sound) (hk : event.kind ≠ .unhandled)
    (h : (work event).Gives mayFail s r t) : Applied mayFail event.kind s r t := by
  unfold work at h
  split at h
  · rename_i e he
    rw [he]
    rw [← map_eq_pure_bind] at h
    obtain ⟨q, hq, rfl⟩ := Action.gives_map.mp h
    rcases Reconcile.gives_applySubscription hs hq with ⟨id, hd⟩ | hi | ⟨f, rfl, hhalf⟩
    · exact .of_settled _ id rfl (Or.inl hd)
    · exact .of_settled _ default rfl (Or.inr hi)
    · exact .half rfl hhalf
  · rename_i e he
    rw [he]
    rw [← map_eq_pure_bind] at h
    obtain ⟨q, hq, rfl⟩ := Action.gives_map.mp h
    exact .of_settled _ default rfl (Reconcile.gives_applyInvoice hs hq)
  · rename_i e he
    rw [he]
    rw [← map_eq_pure_bind] at h
    obtain ⟨q, hq, rfl⟩ := Action.gives_map.mp h
    exact .of_settled _ default rfl (Reconcile.gives_applyProduct hq)
  · rename_i he
    exact absurd he hk

/-- The ledger after it was asked about an event: as it was, a plan or a script apart. -/
structure Asked (d d' : LedgerDesk) : Prop where
  ledger : d'.ledger = d.ledger
  marks : d'.outages.planned .mark = d.outages.planned .mark

theorem Asked.trans {d d' d'' : LedgerDesk} (h : Asked d d') (h' : Asked d' d'') : Asked d d'' :=
  ⟨h'.ledger.trans h.ledger, h'.marks.trans h.marks⟩

theorem Asked.frame {s : Scene} {d : LedgerDesk} (h : Asked s.ledger d) :
    s.Frame { s with ledger := d } := ⟨h.ledger, rfl, rfl, rfl, rfl⟩

theorem asked (d : LedgerDesk) (now : DateTime) (id : String) :
    Asked d (d.answer now (.isMarked id)).2 :=
  ⟨(d.answer_isMarked now id).1, (d.answer_isMarked now id).2.1⟩

/-- The ledger answers, or it cannot be asked. -/
theorem gives_bind_isMarked {α : Type} {id : String} {f : Bool → Action α} {r : Except Failure α}
    (h : (Action.ledger (.isMarked id) >>= f).Gives mayFail s r t) :
    (∃ b, (s.ledger.answer s.clock (.isMarked id)).1 = .ok b ∧
        (f b).Gives mayFail
          { s with ledger := (s.ledger.answer s.clock (.isMarked id)).2 } r t) ∨
      ((s.ledger.answer s.clock (.isMarked id)).1 = .error LedgerDesk.unavailable ∧
        r = .error LedgerDesk.unavailable ∧
        t = { s with ledger := (s.ledger.answer s.clock (.isMarked id)).2 }) := by
  rw [Action.gives_bind] at h
  rcases h with ⟨b, u, hx, h⟩ | ⟨e, hx, rfl⟩
  · obtain ⟨hb, rfl⟩ := Action.gives_ledger.mp hx
    exact Or.inl ⟨b, hb.symm, h⟩
  · obtain ⟨he, rfl⟩ := Action.gives_ledger.mp hx
    rcases (s.ledger.answer_isMarked s.clock id).2.2 with ⟨b, hb⟩ | hb
    · rw [hb] at he
      cases he
    · rw [hb] at he
      cases he
      exact Or.inr ⟨hb, rfl, rfl⟩

theorem gives_dispatch {event : Event} {r : Except Failure (Option (Option CustomerBackfill))}
    (hk : event.kind ≠ .unhandled) (h : (dispatch event).Gives mayFail s r t) :
    (applyOnce event.id (work event)).Gives mayFail s r t := by
  unfold dispatch at h
  unfold work
  cases he : event.kind with
  | subscription e =>
    rw [he] at h
    exact Action.gives_withTenant.mp h
  | invoice e =>
    rw [he] at h
    exact Action.gives_withTenant.mp h
  | product e =>
    rw [he] at h
    exact Action.gives_withCatalog.mp h
  | unhandled => exact absurd he hk

/-- Best-effort work changes nothing but metadata at the provider. -/
theorem yields_runFollowUp {followUp : Option CustomerBackfill} {u : Unit}
    (h : (Reconcile.runFollowUp followUp).Yields mayFail s u t) :
    ∃ p, t = { s with provider := p } ∧ p.catalog = s.provider.catalog := by
  cases followUp with
  | none => exact ⟨s.provider, h.2, rfl⟩
  | some b =>
    obtain ⟨_, _, ⟨_, rfl⟩, _, rfl⟩ := h
    refine ⟨_, rfl, ?_⟩
    unfold Provider.answer
    dsimp only
    split
    · rfl
    · simp only [Provider.reply]
      split <;> rfl

/-- The ledger with an event marked, unless every attempt at the mark is to fail. -/
def marked (d : LedgerDesk) (now : DateTime) (id : String) : Ledger :=
  if d.outages.allFail .mark markAttempts then d.ledger else d.ledger.mark now id

theorem marked_of_isPlain {d : LedgerDesk} (h : d.IsPlain) (now : DateTime) (id : String) :
    marked d now id = d.ledger.mark now id := by
  unfold marked
  rw [h.outages]
  rfl

theorem Asked.marked {d d' : LedgerDesk} (h : Asked d d') (now : DateTime) (id : String) :
    (d'.tryMark now id markAttempts).ledger = Delivery.marked d now id := by
  rw [LedgerDesk.tryMark_ledger, Outages.allFail_congr h.marks, h.ledger]
  rfl

/-- What the work of an event can come to; its ledger is never asked. -/
def Works (mayFail : Prop) (event : Event) (s : Scene)
    (q : Except Failure (Option CustomerBackfill)) (t : Scene) : Prop :=
  ∃ d, (work event).Gives mayFail { s with ledger := d } q t

/-- What handling an event can come to. -/
inductive Handled (mayFail : Prop) (event : Event) (s : Scene) :
    Except Failure DeliveryOutcome → Scene → Prop
  /-- The ledger could not be asked. -/
  | unasked {u : Scene} (planned : ¬s.ledger.IsPlain) (known : ¬s.ledger.Admits s.clock event.id)
    (frame : s.Frame u) (same : u.store = s.store) :
    Handled mayFail event s (.error LedgerDesk.unavailable) u
  | skipped {u : Scene} (known : ¬s.ledger.Admits s.clock event.id)
    (frame : s.Frame u) (same : u.store = s.store) :
    Handled mayFail event s (.ok .alreadyProcessed) u
  | ignored {u : Scene} (kind : event.kind = .unhandled) (same : u.store = s.store)
    (mark : u.ledger.ledger = marked s.ledger s.clock event.id) :
    Handled mayFail event s (.ok .ignored) u
  | failed {f : Failure} {u : Scene} (new : s.ledger.Admits s.clock event.id)
    (kind : event.kind ≠ .unhandled) (frame : s.Frame u)
    (work : Works mayFail event s (.error f) u) : Handled mayFail event s (.error f) u
  | processed {followUp : Option CustomerBackfill} {t u : Scene}
    (new : s.ledger.Admits s.clock event.id) (kind : event.kind ≠ .unhandled)
    (work : Works mayFail event s (.ok followUp) t) (same : u.store = t.store)
    (mark : u.ledger.ledger = marked s.ledger s.clock event.id) :
    Handled mayFail event s (.ok .processed) u

theorem gives_mark {id : String} {r : Except Failure Unit}
    (h : (mark id).Gives mayFail s r t) :
    r = .ok () ∧ t = { s with ledger := s.ledger.tryMark s.clock id markAttempts } := by
  obtain ⟨_, hy, rfl⟩ := Action.gives_lift.mp h
  exact ⟨rfl, yields_tryMark hy⟩

/-- What is left to do once the work of an event is done. -/
theorem gives_finish {followUp : Option CustomerBackfill} {id : String}
    {r : Except Failure DeliveryOutcome}
    (h : Action.Gives mayFail (do
      ExceptT.lift (Reconcile.runFollowUp followUp)
      mark id
      pure .processed) s r t) :
    r = .ok .processed ∧ t.store = s.store ∧
      t.ledger = s.ledger.tryMark s.clock id markAttempts := by
  rw [Action.gives_bind] at h
  rcases h with ⟨_, u, hx, h⟩ | ⟨_, hx, rfl⟩
  · obtain ⟨_, hy, -⟩ := Action.gives_lift.mp hx
    obtain ⟨p, rfl, -⟩ := yields_runFollowUp hy
    rw [Action.gives_bind] at h
    rcases h with ⟨_, v, hx, h⟩ | ⟨_, hx, rfl⟩
    · obtain ⟨-, rfl⟩ := gives_mark hx
      obtain ⟨rfl, rfl⟩ := Action.gives_pure.mp h
      exact ⟨rfl, rfl, rfl⟩
    · cases (gives_mark hx).1
  · obtain ⟨_, _, hr⟩ := Action.gives_lift.mp hx
    cases hr

theorem Works.of_ledger {event : Event} {d : LedgerDesk}
    {q : Except Failure (Option CustomerBackfill)}
    (h : Works mayFail event { s with ledger := d } q t) : Works mayFail event s q t := h

theorem gives_applyOnce {event : Event} {r : Except Failure (Option (Option CustomerBackfill))}
    (h : (applyOnce event.id (work event)).Gives mayFail s r t) :
    ∃ d, Asked s.ledger d ∧
      (((s.ledger.answer s.clock (.isMarked event.id)).1 = .ok true ∧
          r = .ok none ∧ t = { s with ledger := d }) ∨
        ((s.ledger.answer s.clock (.isMarked event.id)).1 = .error LedgerDesk.unavailable ∧
          r = .error LedgerDesk.unavailable ∧ t = { s with ledger := d }) ∨
        ((s.ledger.answer s.clock (.isMarked event.id)).1 = .ok false ∧
          ∃ q, r = q.map some ∧ Works mayFail event s q t ∧
            Scene.Frame { s with ledger := d } t ∧ t.ledger = d)) := by
  unfold applyOnce at h
  refine ⟨_, asked _ s.clock event.id, ?_⟩
  rcases gives_bind_isMarked h with ⟨b, hb, h⟩ | hdown
  · cases b with
    | true =>
      obtain ⟨rfl, rfl⟩ := Action.gives_pure.mp h
      exact Or.inl ⟨hb, rfl, rfl⟩
    | false =>
      obtain ⟨q, hq, rfl⟩ := Action.gives_map.mp h
      obtain ⟨hframe, hledger⟩ := hq.frame (work_within event)
      exact Or.inr (Or.inr ⟨hb, q, rfl, ⟨_, hq⟩, hframe, hledger⟩)
  · exact Or.inr (Or.inl hdown)

/-- A ledger that cannot be asked, now or again, has failures planned. -/
theorem not_isPlain_of_answer {d : LedgerDesk} {now : DateTime} {id : String}
    (h : (d.answer now (.isMarked id)).1 = .error LedgerDesk.unavailable) : ¬d.IsPlain := by
  intro hp
  rw [hp.answer_isMarked] at h
  cases h

/-- Every way in which handling an event can end. -/
theorem gives_handle {event : Event} {r : Except Failure DeliveryOutcome}
    (h : (handle event).Gives mayFail s r t) : Handled mayFail event s r t := by
  unfold handle at h
  have hd := asked s.ledger s.clock event.id
  rcases gives_bind_isMarked h with ⟨b, hb, h⟩ | ⟨hb, rfl, rfl⟩
  · cases b with
    | true =>
      obtain ⟨rfl, rfl⟩ := Action.gives_pure.mp h
      exact .skipped (fun new => nomatch hb.symm.trans new.1) hd.frame rfl
    | false =>
      simp only [Bool.false_eq_true, if_false] at h
      by_cases hk : event.kind = .unhandled
      · rw [if_pos hk, Action.gives_bind] at h
        rcases h with ⟨_, u, hx, h⟩ | ⟨_, hx, rfl⟩
        · obtain ⟨-, rfl⟩ := gives_mark hx
          obtain ⟨rfl, rfl⟩ := Action.gives_pure.mp h
          exact .ignored hk rfl (hd.marked _ _)
        · cases (gives_mark hx).1
      · rw [if_neg hk, Action.gives_bind] at h
        rcases h with ⟨a, u, hx, h⟩ | ⟨f, hx, rfl⟩
        · -- the second question was answered, and the work is done if the answer was no
          obtain ⟨d, hd', ⟨hb', ha, rfl⟩ | ⟨-, ha, -⟩ | ⟨hb', q, ha, work, frame, hu⟩⟩ :=
            gives_applyOnce (gives_dispatch hk hx)
          · cases ha
            obtain ⟨rfl, rfl⟩ := Action.gives_pure.mp h
            exact .skipped (fun new => nomatch hb'.symm.trans new.2) (hd.trans hd').frame rfl
          · cases ha
          · cases q with
            | error f => cases ha
            | ok followUp =>
              cases ha
              obtain ⟨rfl, hstore, hledger⟩ := gives_finish h
              refine .processed ⟨hb, hb'⟩ hk (work.of_ledger) hstore ?_
              rw [hledger, hu, frame.clock]
              exact (hd.trans hd').marked _ _
        · obtain ⟨d, hd', ⟨-, ha, -⟩ | ⟨hb', ha, rfl⟩ | ⟨hb', q, ha, work, frame, -⟩⟩ :=
            gives_applyOnce (gives_dispatch hk hx)
          · cases ha
          · cases ha
            refine .unasked (fun hp => ?_) (fun new => nomatch hb'.symm.trans new.2)
              (hd.trans hd').frame rfl
            rw [hp.answer_isMarked] at hb'
            exact not_isPlain_of_answer hb' hp
          · cases q with
            | ok followUp => cases ha
            | error f =>
              cases ha
              exact .failed ⟨hb, hb'⟩ hk ((hd.trans hd').frame.trans frame) (work.of_ledger)
  · exact .unasked (not_isPlain_of_answer hb) (fun new => nomatch hb.symm.trans new.1) hd.frame rfl

/-- An event that was taken in is marked, unless every attempt at the mark is to fail. -/
theorem Handled.marked {event : Event} {outcome : DeliveryOutcome}
    (h : Handled mayFail event s (.ok outcome) t)
    (ho : outcome = .processed ∨ outcome = .ignored) :
    t.ledger.ledger = Delivery.marked s.ledger s.clock event.id := by
  cases h with
  | skipped => rcases ho with ho | ho <;> cases ho
  | ignored _ _ mark => exact mark
  | processed _ _ _ _ mark => exact mark

theorem Handled.frame_of_error {event : Event} {f : Failure}
    (h : Handled mayFail event s (.error f) t) : s.Frame t := by
  cases h with
  | unasked _ _ frame => exact frame
  | failed _ _ frame => exact frame

theorem Handled.of_skipped {event : Event} (h : Handled mayFail event s (.ok .alreadyProcessed) t) :
    s.Frame t ∧ t.store = s.store := by
  cases h with
  | skipped _ frame same => exact ⟨frame, same⟩

/-- What the work of an event comes to when the store keeps its records under their keys. -/
theorem Works.applied {event : Event} {q : Except Failure (Option CustomerBackfill)}
    (hs : s.store.Sound) (hk : event.kind ≠ .unhandled) (h : Works mayFail event s q t) :
    Applied mayFail event.kind s q t := by
  obtain ⟨d, h⟩ := h
  have applied : Applied mayFail event.kind { s with ledger := d } q t := gives_work hs hk h
  cases applied with
  | settled done => exact .settled done
  | rejected error same => exact .rejected error same
  | interrupted fails same => exact .interrupted fails same
  | half event half => exact .half event half

theorem Works.settled {event : Event} {followUp : Option CustomerBackfill} (hs : s.store.Sound)
    (hk : event.kind ≠ .unhandled) (h : Works mayFail event s (.ok followUp) t) :
    ∃ id, settle s.store s.now s.provider id event.kind = .ok t.store := by
  cases h.applied hs hk with
  | settled done => exact ⟨_, done⟩

/-- What a failed delivery leaves in the store: nothing, or a half applied event. -/
theorem Handled.store_of_error {event : Event} {f : Failure} (hs : s.store.Sound)
    (h : Handled mayFail event s (.error f) t) :
    t.store = s.store ∨ ∃ e, event.kind = .subscription e ∧
      s.ledger.Admits s.clock event.id ∧ HalfApplied mayFail s e f t.store := by
  cases h with
  | unasked _ _ _ same => exact Or.inl same
  | failed new kind _ work =>
    cases work.applied hs kind with
    | rejected _ same => exact Or.inl same
    | interrupted _ same => exact Or.inl same
    | half hk half => exact Or.inr ⟨_, hk, new, half⟩

/-- What a delivery leaves in the store, however it ends: nothing new, the event settled, or
half applied. -/
theorem Handled.store_cases {event : Event} {r : Except Failure DeliveryOutcome}
    (hs : s.store.Sound) (h : Handled mayFail event s r t) :
    t.store = s.store ∨ (∃ id, settle s.store s.now s.provider id event.kind = .ok t.store) ∨
      ∃ e f, event.kind = .subscription e ∧ HalfApplied mayFail s e f t.store := by
  cases r with
  | error f =>
    rcases h.store_of_error hs with same | ⟨e, hk, -, half⟩
    · exact Or.inl same
    · exact Or.inr (Or.inr ⟨e, f, hk, half⟩)
  | ok outcome =>
    cases h with
    | skipped _ _ same => exact Or.inl same
    | ignored _ same => exact Or.inl same
    | processed _ kind work same =>
      obtain ⟨id, done⟩ := work.settled hs kind
      exact Or.inr (Or.inl ⟨id, same ▸ done⟩)

/-- What is answered to the delivery of an event that was taken in. -/
def taken (kind : EventKind) : DeliveryOutcome :=
  if kind = .unhandled then .ignored else .processed

/-- When no call fails, an event that is let through is settled and marked, or refused. -/
theorem Handled.calm {event : Event} {r : Except Failure DeliveryOutcome} (hs : s.store.Sound)
    (new : s.ledger.Admits s.clock event.id) (h : Handled False event s r t) :
    ∃ id, (settle s.store s.now s.provider id event.kind = .ok t.store ∧
        r = .ok (taken event.kind) ∧ t.ledger.ledger = Delivery.marked s.ledger s.clock event.id) ∨
      ∃ b, settle s.store s.now s.provider id event.kind = .error b ∧ r = .error (.error b) ∧
        t.store = s.store ∧ s.Frame t := by
  unfold taken
  cases h with
  | unasked _ known => exact absurd new known
  | skipped known => exact absurd new known
  | ignored kind same mark =>
    rw [if_pos kind, kind]
    exact ⟨default, Or.inl ⟨congrArg Except.ok same.symm, rfl, mark⟩⟩
  | failed _ kind frame work =>
    cases work.applied hs kind with
    | rejected error same => exact ⟨_, Or.inr ⟨_, error, rfl, same, frame⟩⟩
    | interrupted fails => exact fails.elim
    | half _ half => exact half.1.elim
  | processed _ kind work same mark =>
    obtain ⟨id, done⟩ := work.settled hs kind
    rw [if_neg kind, same]
    exact ⟨id, Or.inl ⟨done, rfl, mark⟩⟩

end Delivery

namespace World
variable {w : World}

/-- Without its database the ledger cannot be asked, and nothing is done. -/
theorem run_handle_of_poolClosed (h : w.poolClosed = true) (event : Event) :
    ∃ f, w.run (Delivery.handle event) = (.error f, w) := by
  have hanswer : w.answer (.ledger (.isMarked event.id)) =
      (w.closedLedger (.isMarked event.id), w) := by
    unfold answer
    exact if_pos h
  have hdown : ∃ f, w.closedLedger (.isMarked event.id) = .error f := by
    unfold closedLedger
    dsimp only [LedgerCall.op]
    split <;> exact ⟨_, rfl⟩
  obtain ⟨f, hf⟩ := hdown
  refine ⟨f, ?_⟩
  unfold Delivery.handle
  rw [run_bind, run_ledger, hanswer, hf]

/-- Handling an event ends in one of the ways there are, or nothing is done for want of the
database. -/
theorem handled {event : Event} {r : Except Failure DeliveryOutcome} {u : World}
    (h : w.run (Delivery.handle event) = (r, u)) :
    (w.poolClosed = false ∧ Delivery.Handled True event w.scene r u.scene) ∨
      ((∃ f, r = .error f) ∧ u = w) := by
  cases hpool : w.poolClosed with
  | true =>
    obtain ⟨f, hf⟩ := run_handle_of_poolClosed hpool event
    obtain ⟨rfl, rfl⟩ := Prod.mk.inj (h.symm.trans hf)
    exact Or.inr ⟨⟨f, rfl⟩, rfl⟩
  | false =>
    have gives := Delivery.gives_handle (run_gives (Delivery.handle event) (open_of_pool hpool))
    rw [h] at gives
    exact Or.inl ⟨rfl, gives⟩

end World

end TenantBilling
