import TenantBilling.Proofs.LostMarks
import TenantBilling.Proofs.Ownership

/-! Deliveries that commute. Two events that do not write the same part of the same record can be
delivered in either order: each finds what it goes by as it would have found it first, and what
one writes stays out of the other's way. So each is answered the same, and the same is left. -/

namespace TenantBilling

open Calendar

/-- Two events that write the same part of the record of one tenant. -/
def EventKind.Rivals : EventKind → EventKind → Prop
  | .subscription d, .subscription e => d.address = e.address
  | .invoice d, .invoice e => d.address = e.address
  | _, _ => False

theorem EventKind.Rivals.symm {a b : EventKind} (h : a.Rivals b) : b.Rivals a := by
  cases a <;> cases b <;> first | exact Eq.symm h | exact h

/-- Events of one tenant that are no rivals are a payment and a subscription. -/
theorem EventKind.MayTurn.providerId {kind : EventKind} {e : SubscriptionEvent}
    {old new : Organization} (h : kind.MayTurn e.address old new)
    (apart : ¬kind.Rivals (.subscription e)) :
    new.subscription.providerId = old.subscription.providerId := by
  cases kind with
  | subscription d => rw [h.others fun same => apart (Option.some.inj same)]
  | invoice d => rw [h.payment d rfl]
  | _ => rw [h.others (nomatch ·)]

namespace Delivery
variable {s t u : Store} {now : DateTime} {p : Provider} {a b kind : EventKind}

/-! ## Events that are not disturbed -/

/-- An event does in one store what it does in another. -/
structure Undisturbed (s : Store) (now : DateTime) (p : Provider) (kind : EventKind) (t : Store) :
    Prop where
  amended : ∀ sub, amended t now p sub kind = amended s now p sub kind
  opening : opening? t now kind = opening? s now kind
  refreshed : refreshed? t p kind = refreshed? s p kind
  refusal : refusal? t p kind = refusal? s p kind

theorem sameCatalog_of_touches (h : s.Touches kind t) : s.SameCatalog t := by
  intro id
  have catalog := congrArg (Option.map Prod.snd) (h.catalog id)
  rw [Option.map_map, Option.map_map] at catalog
  exact catalog

/-- Two searches that find the same as far as one can tell. -/
theorem found_cases {α β : Type} {f : α → β} {x y : Option α} (h : x.map f = y.map f) :
    (x = none ∧ y = none) ∨ ∃ new old, x = some new ∧ y = some old ∧ f new = f old := by
  cases x with
  | none => exact Or.inl ⟨rfl, Option.map_eq_none_iff.mp h.symm⟩
  | some new =>
    obtain ⟨old, hold, same⟩ := Option.map_eq_some_iff.mp h.symm
    exact Or.inr ⟨new, old, rfl, hold, same.symm⟩

theorem isSome_congr {α β : Type} {f : α → β} {x y : Option α} (h : x.map f = y.map f) :
    x.isSome = y.isSome := by
  rw [← Option.isSome_map (f := f), h, Option.isSome_map]

/-- What becomes of a record depends on the ids of plans. -/
theorem amended_congr
    (sold : ∀ productId, (t.planOfProduct? productId).map (·.id) =
      (s.planOfProduct? productId).map (·.id))
    (fallback : t.defaultPlan?.map (·.id) = s.defaultPlan?.map (·.id)) (sub : Subscription) :
    amended t now p sub kind = amended s now p sub kind := by
  cases kind with
  | subscription e =>
    unfold amended
    dsimp only
    cases Reconcile.effectOf e.status with
    | live =>
      rcases found_cases (sold e.productId) with ⟨hnew, hold⟩ | ⟨new, old, hnew, hold, hid⟩
      · rw [hnew, hold]
      · have record : Reconcile.liveSubscription e new sub (p.resolve e.customer) =
            Reconcile.liveSubscription e old sub (p.resolve e.customer) := by
          simp only [Reconcile.liveSubscription, hid]
        simp only [hnew, hold, record]
    | ended =>
      rcases found_cases fallback with ⟨hnew, hold⟩ | ⟨new, old, hnew, hold, hid⟩
      · rw [hnew, hold]
      · have record : Reconcile.defaultSubscription new now sub =
            Reconcile.defaultSubscription old now sub := by
          simp only [Reconcile.defaultSubscription, hid]
        have spares : Phase.Spares sub new e.subscriptionId ↔
            Phase.Spares sub old e.subscriptionId := by
          simp only [Phase.Spares, hid]
        simp only [hnew, hold, record, spares]
    | nothing => rfl
  | _ => rfl

/-- The plan sold under a product is known to be there by its id. -/
theorem planOfProduct?_eq (hs : s.Sound) (ht : t.Sound) (catalog : s.SameCatalog t)
    (productId : String) :
    t.planOfProduct? productId =
      (s.planOfProduct? productId).bind fun plan => t.plans.get? plan.id := by
  rcases found_cases (catalog.planOfProduct? hs ht productId) with
    ⟨hnew, hold⟩ | ⟨new, old, hnew, hold, hid⟩
  · rw [hnew, hold, Option.bind_none]
  · rw [hnew, hold, Option.bind_some, ← hid, get?_of_sold ht hnew]

/-- Plans that are sold are told apart by their ids. -/
theorem eq_of_sold (hs : s.Sound) {x y : String} {old new : Plan}
    (hold : s.planOfProduct? x = some old) (hnew : s.planOfProduct? y = some new)
    (hid : old.id = new.id) : old = new ∧ x = y := by
  have stored := get?_of_sold hs hold
  rw [hid, get?_of_sold hs hnew] at stored
  obtain rfl := Option.some.inj stored
  exact ⟨rfl, (Store.planOfProduct?_some hold).2.symm.trans (Store.planOfProduct?_some hnew).2⟩

/-- A plan, once brought up to date, is brought up to date as before. -/
theorem described_congr (hs : s.Sound) (ht : t.Sound) (catalog : s.SameCatalog t)
    (h : Change s now p a t) {productId : String} {offer : Product × List Price}
    (offered : p.offer productId = .ok offer) :
    (t.planOfProduct? productId).map (planOfProduct · offer.1 offer.2) =
      (s.planOfProduct? productId).map (planOfProduct · offer.1 offer.2) := by
  rw [planOfProduct?_eq hs ht catalog]
  cases sold : s.planOfProduct? productId with
  | none => rfl
  | some plan =>
    have stored := get?_of_sold hs sold
    have plans := h.plans
    rw [Option.bind_some, Option.map_some]
    cases hnew : refreshed? s p a with
    | none =>
      rw [hnew] at plans
      rw [plans, stored, Option.map_some]
    | some new =>
      rw [hnew] at plans
      dsimp only at plans
      rw [plans, Table.get?_insert]
      split
      · rename_i hid
        -- it is the plan that was brought up to date, under the same product
        obtain ⟨e, old, offer', -, sold', offered', described⟩ := refreshed?_some hnew
        rw [(planOfProduct_ok described).1] at hid
        obtain ⟨rfl, rfl⟩ := eq_of_sold hs sold sold' hid
        obtain rfl := Except.ok.inj (offered'.symm.trans offered)
        rw [Option.map_some, planOfProduct_again described, described]
      · rw [stored, Option.map_some]

/-- What a product comes to is the same once a plan was brought up to date. -/
theorem Change.product_undisturbed (hs : s.Sound) (ht : t.Sound) (catalog : s.SameCatalog t)
    (h : Change s now p a t) (e : ProductEvent) :
    refreshed? t p (.product e) = refreshed? s p (.product e) ∧
      refusal? t p (.product e) = refusal? s p (.product e) := by
  have sold := catalog.planOfProduct? hs ht e.productId
  unfold refreshed? refusal?
  dsimp only
  cases offered : p.offer e.productId with
  | error b =>
    rcases found_cases sold with ⟨hnew, hold⟩ | ⟨new, old, hnew, hold, -⟩
    · rw [hnew, hold]
      exact ⟨rfl, rfl⟩
    · rw [hnew, hold]
      exact ⟨rfl, rfl⟩
  | ok offer =>
    rcases found_cases (described_congr hs ht catalog h offered) with
      ⟨hnew, hold⟩ | ⟨new, old, hnew, hold, described⟩
    · rw [hnew, hold]
      exact ⟨rfl, rfl⟩
    · simp only [hnew, hold, Option.bind_eq_bind, Option.bind_some, Except.toOption, described,
        and_self]

/-- The period that an event opens is the same in a store with the same catalog, since tenants keep
what they are called and what they have used. -/
theorem opening?_congr (hs : s.Sound) (ht : t.Sound) (touches : s.Touches a t) :
    opening? t now b = opening? s now b := by
  cases b with
  | subscription e =>
    have sold := (sameCatalog_of_touches touches).planOfProduct? hs ht e.productId
    unfold opening?
    simp only [isSome_congr sold]
    rcases touches.organization_cases e.address with ⟨hold, hnew⟩ | ⟨old, new, hold, hnew, turned⟩
    · rw [hold, hnew]
    · simp only [hold, hnew, Option.bind_eq_bind, Option.bind_some, turned.address,
        turned.counters]
  | _ => rfl

/-- An event is refused for what was amiss before another one that is no rival, and for nothing
else. -/
theorem Change.refusal_undisturbed (hs : s.Sound) (ht : t.Sound) (h : Change s now p a t)
    (apart : ¬a.Rivals b) : refusal? t p b = refusal? s p b := by
  have touches := Store.touches_of_change hs h
  have catalog := sameCatalog_of_touches touches
  cases b with
  | subscription e =>
    have sold := isSome_congr (catalog.planOfProduct? hs ht e.productId)
    have fallback := isSome_congr (catalog.defaultPlan? hs ht)
    unfold refusal?
    simp only [sold, fallback]
    rcases touches.organization_cases e.address with ⟨hold, hnew⟩ | ⟨old, new, hold, hnew, turned⟩
    · rw [hold, hnew]
    · have stale : Reconcile.isStale new.subscription e.subscriptionId =
          Reconcile.isStale old.subscription e.subscriptionId := by
        simp only [Reconcile.isStale, Subscription.hasProvider, turned.providerId apart]
      simp only [hold, hnew, stale]
  | invoice e =>
    unfold refusal?
    rcases touches.organization_cases e.address with ⟨hold, hnew⟩ | ⟨old, new, hold, hnew, -⟩
    · simp only [hold, hnew]
    · simp only [hold, hnew, Option.isSome_some]
  | product e => exact (h.product_undisturbed hs ht catalog e).2
  | unhandled => rfl

/-- An event that is no rival of another one does not disturb it. -/
theorem Change.undisturbed (hs : s.Sound) (ht : t.Sound) (h : Change s now p a t)
    (apart : ¬a.Rivals b) : Undisturbed s now p b t := by
  have touches := Store.touches_of_change hs h
  have catalog := sameCatalog_of_touches touches
  refine ⟨amended_congr (catalog.planOfProduct? hs ht) (catalog.defaultPlan? hs ht),
    opening?_congr hs ht touches, ?_, h.refusal_undisturbed hs ht apart⟩
  cases b with
  | product e => exact (h.product_undisturbed hs ht catalog e).1
  | _ => rfl

/-! ## What two events leave -/

/-- A payment and a subscription write different parts of a record. -/
theorem amended_invoice_comm (s : Store) (now : DateTime) (p : Provider) (d : InvoiceEvent)
    (e : SubscriptionEvent) (sub : Subscription) :
    amended s now p (amended s now p sub (.invoice d)) (.subscription e) =
      amended s now p (amended s now p sub (.subscription e)) (.invoice d) := by
  have invoice (sub : Subscription) : amended s now p sub (.invoice d) =
      if sameMoment sub.lastPaymentDate (some d.effectiveAt) then sub
      else { sub with lastPaymentDate := some d.effectiveAt } := rfl
  rw [invoice, invoice, amended_lastPaymentDate]
  split
  · rfl
  · exact amended_pay s now p e sub _

/-- Events of one tenant that are no rivals amend its record in either order. -/
theorem amended_comm (s : Store) (now : DateTime) (p : Provider) (sub : Subscription)
    {address : String} (ha : a.address? = some address) (hb : b.address? = some address)
    (apart : ¬a.Rivals b) :
    amended s now p (amended s now p sub a) b = amended s now p (amended s now p sub b) a := by
  have same := ha.trans hb.symm
  cases a with
  | subscription d =>
    cases b with
    | subscription e => exact absurd (Option.some.inj same) apart
    | invoice e => exact (amended_invoice_comm s now p e d sub).symm
    | _ => cases hb
  | invoice d =>
    cases b with
    | subscription e => exact amended_invoice_comm s now p d e sub
    | invoice e => exact absurd (Option.some.inj same) apart
    | _ => cases hb
  | _ => cases ha

/-- The snapshot under a key that an event opens. -/
def openingAt? (s : Store) (now : DateTime) (kind : EventKind) (k : SnapshotKey) :
    Option Snapshot := (opening? s now kind).filter (·.key = k)

theorem content_openSnapshot (s : Store) (x : Snapshot) (k : SnapshotKey) :
    ((s.openSnapshot x).1.snapshots.get? k).map Snapshot.content =
      ((s.snapshots.get? k).map Snapshot.content).or
        (((some x).filter (·.key = k)).map Snapshot.content) := by
  by_cases hk : k = x.key
  · subst hk
    cases stored : s.snapshots.get? x.key with
    | some y => rw [Store.openSnapshot_of_stored stored, stored, Option.map_some, Option.some_or]
    | none =>
      rw [Store.openSnapshot_of_fresh stored, Table.get?_insert_self, Option.map_none,
        Option.none_or, Option.filter_some, if_pos (decide_eq_true rfl)]
  · have other : (some x).filter (·.key = k) = none := by
      rw [Option.filter_some, if_neg fun same => hk (of_decide_eq_true same).symm]
    rw [other, Option.map_none, Option.or_none]
    cases stored : s.snapshots.get? x.key with
    | some y => rw [Store.openSnapshot_of_stored stored]
    | none => rw [Store.openSnapshot_of_fresh stored, Table.get?_insert_of_ne _ _ hk]

/-- The snapshots that an event leaves: those that were there, and the one it opens where there
was none. -/
theorem Change.content (h : Change s now p kind t) (k : SnapshotKey) :
    (t.snapshots.get? k).map Snapshot.content =
      ((s.snapshots.get? k).map Snapshot.content).or
        ((openingAt? s now kind k).map Snapshot.content) := by
  obtain ⟨id, snapshots⟩ := h.snapshots
  unfold openingAt?
  cases opens : opening? s now kind with
  | none =>
    rw [opens] at snapshots
    rw [snapshots, Option.filter_none, Option.map_none, Option.or_none]
  | some x =>
    rw [opens] at snapshots
    dsimp only at snapshots
    have content : ((some { x with id }).filter (·.key = k)).map Snapshot.content =
        ((some x).filter (·.key = k)).map Snapshot.content := by
      have key : ({ x with id } : Snapshot).key = x.key := rfl
      simp only [Option.filter_some, key]
      split <;> rfl
    rw [snapshots, content_openSnapshot, content]

/-- A period is opened by a subscription of its tenant. -/
theorem openingAt?_some (hs : s.Sound) {k : SnapshotKey} {x : Snapshot}
    (h : openingAt? s now kind k = some x) :
    ∃ e, kind = .subscription e ∧ e.address = k.address := by
  obtain ⟨opens, hkey⟩ := Option.filter_eq_some_iff.mp h
  obtain ⟨e, rfl, -, -, haddress⟩ := opening?_some hs opens
  refine ⟨e, rfl, ?_⟩
  rw [← haddress, ← of_decide_eq_true hkey]
  rfl

/-- Events that are no rivals do not open the same period. -/
theorem or_openingAt?_comm (hs : s.Sound) (apart : ¬a.Rivals b) (k : SnapshotKey) :
    ((openingAt? s now a k).map Snapshot.content).or
        ((openingAt? s now b k).map Snapshot.content) =
      ((openingAt? s now b k).map Snapshot.content).or
        ((openingAt? s now a k).map Snapshot.content) := by
  cases ha : openingAt? s now a k with
  | none => rw [Option.map_none, Option.none_or, Option.or_none]
  | some x =>
    cases hb : openingAt? s now b k with
    | none => rw [Option.map_none, Option.none_or, Option.or_none]
    | some y =>
      obtain ⟨d, rfl, hd⟩ := openingAt?_some hs ha
      obtain ⟨e, rfl, he⟩ := openingAt?_some hs hb
      exact absurd (hd.trans he.symm) apart

/-- Two plans that are brought up to date are different ones, or come out the same. -/
theorem refreshed?_eq_of_id (hs : s.Sound) {x y : Plan} (hx : refreshed? s p a = some x)
    (hy : refreshed? s p b = some y) (hid : x.id = y.id) : x = y := by
  obtain ⟨d, old, offer, -, sold, offered, described⟩ := refreshed?_some hx
  obtain ⟨e, old', offer', -, sold', offered', described'⟩ := refreshed?_some hy
  rw [(planOfProduct_ok described).1, (planOfProduct_ok described').1] at hid
  obtain ⟨rfl, hproduct⟩ := eq_of_sold hs sold sold' hid
  rw [hproduct] at offered
  obtain rfl := Except.ok.inj (offered.symm.trans offered')
  exact Except.ok.inj (described.symm.trans described')

/-- Two events that are no rivals leave the same in either order, the ids of snapshots apart. -/
theorem Change.alike {ta tb tab tba : Store} (hs : s.Sound) (hta : ta.Sound) (htb : tb.Sound)
    (apart : ¬a.Rivals b) (ha : Change s now p a ta) (hb : Change s now p b tb)
    (hab : Change ta now p b tab) (hba : Change tb now p a tba) : tab.Alike tba := by
  have afterA := ha.undisturbed hs hta apart
  have afterB := hb.undisturbed hs htb fun rivals => apart rivals.symm
  refine ⟨?_, ?_, ?_⟩
  · refine Table.ext_get? fun k => ?_
    change tba.organization? k = tab.organization? k
    rw [hba.organizations, hb.organizations, hab.organizations, ha.organizations,
      Option.map_map, Option.map_map]
    congr 1
    funext org
    simp only [Function.comp_apply, afterA.amended, afterB.amended]
    by_cases hka : a.address? = some k <;> by_cases hkb : b.address? = some k <;>
      simp only [hka, hkb, if_true, if_false]
    rw [amended_comm s now p org.subscription hka hkb apart]
  · have plansA := ha.plans
    have plansB := hb.plans
    have plansAB := hab.plans
    have plansBA := hba.plans
    rw [afterA.refreshed] at plansAB
    rw [afterB.refreshed] at plansBA
    cases hx : refreshed? s p a <;> cases hy : refreshed? s p b <;>
      simp only [hx, hy] at plansA plansB plansAB plansBA <;>
      rw [plansAB, plansBA, plansA, plansB]
    rename_i x y
    by_cases hid : x.id = y.id
    · rw [refreshed?_eq_of_id hs hx hy hid]
    · exact Table.insert_comm _ hid _ _
  · have openingA (k : SnapshotKey) : openingAt? ta now b k = openingAt? s now b k := by
      unfold openingAt?
      rw [afterA.opening]
    have openingB (k : SnapshotKey) : openingAt? tb now a k = openingAt? s now a k := by
      unfold openingAt?
      rw [afterB.opening]
    intro k
    rw [hba.content, hb.content, hab.content, ha.content, openingA, openingB, Option.or_assoc,
      Option.or_assoc, or_openingAt?_comm hs apart]

/-- What is answered to the delivery of an event when no call fails. -/
def answerOf (s : Store) (p : Provider) (kind : EventKind) : Except Failure DeliveryOutcome :=
  match refusal? s p kind with
  | some b => .error (.error b)
  | none => .ok (taken kind)

/-- The ledger after the delivery of an event when no call fails. -/
def noted (s : Store) (p : Provider) (event : Event) (now : DateTime) (l : Ledger) : Ledger :=
  if (refusal? s p event.kind).isSome then l else l.mark now event.id

/-- Events with different ids are noted in either order. -/
theorem entries_noted_comm {a b : Event} (distinct : a.id ≠ b.id) (l : Ledger) :
    (noted s p b now (noted s p a now l)).entries =
      (noted s p a now (noted s p b now l)).entries := by
  unfold noted
  cases (refusal? s p a.kind).isSome with
  | true => rfl
  | false =>
    cases (refusal? s p b.kind).isSome with
    | true => rfl
    | false => exact (Table.insert_comm _ distinct _ _).symm

theorem isMarked_noted {a : Event} {id : String} (other : id ≠ a.id) (l : Ledger) :
    (noted s p a now l).isMarked now id = l.isMarked now id := by
  unfold noted
  split
  · rfl
  · exact Ledger.isMarked_congr now rfl (Table.get?_insert_of_ne _ _ other)

end Delivery

/-! ## Deliveries -/

namespace World
open Delivery
variable {w u : World} {a b event : Event}

theorem Smooth.under_calm (h : w.Smooth) : w.under .calm = w := by
  obtain ⟨clock, wall, ⟨store, planned⟩, ⟨ledger, observed, script, outages, calls⟩,
    ⟨secret, tolerance, customers, catalog, log, failing⟩, locks, taken, ticket, next, closed⟩ := w
  obtain ⟨rfl, rfl, rfl, rfl, rfl⟩ : closed = false ∧ planned = .none ∧ script = [] ∧
      outages = .none ∧ failing = .none :=
    ⟨h.pool, h.store, h.ledger.script, h.ledger.outages, h.provider⟩
  rfl

/-- What becomes of a delivery of a new event when no call fails. -/
structure Delivered (w u : World) (event : Event) (x : Except Failure DeliveryOutcome × World) :
    Prop where
  answer : x.1 = answerOf u.store w.provider event.kind
  change : Change u.store w.now w.provider event.kind x.2.store
  ledger : x.2.ledger.ledger = noted u.store w.provider event w.clock u.ledger.ledger
  smooth : x.2.Smooth
  steady : w.Steady x.2
  sound : x.2.store.Sound
  clock : x.2.clock = w.clock

theorem Smooth.delivered (smooth : w.Smooth) (hu : u.Smooth) (steady : w.Steady u)
    (clock : u.clock = w.clock) (sound : u.store.Sound) (new : u.hasMark event.id = false) :
    Delivered w u event (u.run (handle event)) := by
  have now : u.now = w.now := by
    unfold World.now
    rw [steady.wall, clock]
  obtain ⟨id, hcases⟩ := run_calm sound new
  rw [hu.under_calm, now, steady.settle smooth.steady, clock] at hcases
  have rest : (u.run (handle event)).2.Smooth ∧ w.Steady (u.run (handle event)).2 ∧
      (u.run (handle event)).2.store.Sound ∧ (u.run (handle event)).2.clock = w.clock :=
    ⟨hu.runProc _, run_keeps w.Steady (fun _ c hv => hv.answer c) _ steady, sound_run _ sound,
      (clock_run _ _).trans clock⟩
  obtain ⟨hsmooth, hsteady, hsound, hclock⟩ := rest
  rcases hcases with ⟨done, answer, ledger⟩ | ⟨b, error, answer, same, ledger⟩
  · have accepted : refusal? u.store w.provider event.kind = none := by
      cases refused : refusal? u.store w.provider event.kind with
      | none => rfl
      | some b => cases done.symm.trans (settle_eq_error_iff.mpr refused)
    refine ⟨?_, .of_settled sound done, ?_, hsmooth, hsteady, hsound, hclock⟩
    · rw [answer, answerOf, accepted]
    · rw [ledger, noted, accepted]
      rfl
  · have refused := settle_eq_error_iff.mp error
    refine ⟨?_, ?_, ?_, hsmooth, hsteady, hsound, hclock⟩
    · rw [answer, answerOf, refused]
    · rw [same]
      exact .of_refused refused
    · rw [ledger, noted, refused]
      rfl

/-- When no call fails, two new events that are no rivals can be delivered in either order: each is
answered the same, and the same is left, the ids of snapshots apart. -/
theorem deliveries_commute (smooth : w.Smooth) (sound : w.store.Sound) (distinct : a.id ≠ b.id)
    (newA : w.hasMark a.id = false) (newB : w.hasMark b.id = false)
    (apart : ¬a.kind.Rivals b.kind) :
    let afterA := w.run (handle a)
    let afterB := w.run (handle b)
    let ab := afterA.2.run (handle b)
    let ba := afterB.2.run (handle a)
    ab.1 = afterB.1 ∧ ba.1 = afterA.1 ∧ ab.2.store.Alike ba.2.store ∧
      ab.2.ledger.ledger.entries = ba.2.ledger.ledger.entries := by
  intro afterA afterB ab ba
  have hA : Delivered w w a afterA := smooth.delivered smooth smooth.steady rfl sound newA
  have hB : Delivered w w b afterB := smooth.delivered smooth smooth.steady rfl sound newB
  have newAB : afterA.2.hasMark b.id = false := by
    unfold hasMark
    rw [hA.ledger, hA.clock, isMarked_noted distinct.symm]
    exact newB
  have newBA : afterB.2.hasMark a.id = false := by
    unfold hasMark
    rw [hB.ledger, hB.clock, isMarked_noted distinct]
    exact newA
  have hAB : Delivered w afterA.2 b ab :=
    smooth.delivered hA.smooth hA.steady hA.clock hA.sound newAB
  have hBA : Delivered w afterB.2 a ba :=
    smooth.delivered hB.smooth hB.steady hB.clock hB.sound newBA
  have undisturbedB := hA.change.undisturbed sound hA.sound apart
  have undisturbedA := hB.change.undisturbed sound hB.sound fun rivals => apart rivals.symm
  have ledgerAB := hAB.ledger
  have ledgerBA := hBA.ledger
  unfold noted at ledgerAB ledgerBA
  rw [undisturbedB.refusal, hA.ledger] at ledgerAB
  rw [undisturbedA.refusal, hB.ledger] at ledgerBA
  refine ⟨?_, ?_, ?_, ?_⟩
  · rw [hAB.answer, hB.answer, answerOf, answerOf, undisturbedB.refusal]
  · rw [hBA.answer, hA.answer, answerOf, answerOf, undisturbedA.refusal]
  · exact hA.change.alike sound hA.sound hB.sound apart hB.change hAB.change hBA.change
  · rw [ledgerAB, ledgerBA]
    exact entries_noted_comm distinct w.ledger.ledger

/-- An organization pays and subscribes for a year, in either order. -/
theorem paid_and_subscribed :
    let ab := (sample.run (handle samplePayment)).2.run (handle sampleSubscribed)
    let ba := (sample.run (handle sampleSubscribed)).2.run (handle samplePayment)
    ab.2.store.Alike ba.2.store ∧
      (ba.2.store.organization? "0xa1").map (fun org =>
        (org.subscription.planId, org.subscription.lastPaymentDate)) =
          some (2, some (newYear 2024 (by decide))) := by
  intro ab ba
  have smooth : sample.Smooth := ⟨⟨rfl, rfl, rfl, rfl⟩, rfl⟩
  have both : (ba.2.store.organization? "0xa1").map (fun org =>
      (org.subscription.planId, org.subscription.lastPaymentDate)) =
        some (2, some (newYear 2024 (by decide))) := by decide +kernel
  obtain ⟨-, -, alike, -⟩ := deliveries_commute smooth Store.sample_sound (a := samplePayment)
    (b := sampleSubscribed) (by decide) rfl rfl not_false
  exact ⟨alike, both⟩

end World

end TenantBilling
