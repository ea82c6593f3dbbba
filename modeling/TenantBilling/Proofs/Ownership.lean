import TenantBilling.Proofs.Changes

/-! What a delivery owns. A subscription owns the record of its tenant but for the payment, and the
opening of the year it begins; a payment owns the date of the last one; a product owns the plan it
is sold under. Whatever fails on the way, a delivery touches nothing else in the store. -/

namespace TenantBilling

open Calendar

/-- What an event may make of the organization of an address. -/
structure EventKind.MayTurn (kind : EventKind) (a : String) (old new : Organization) : Prop where
  address : new.address = old.address
  counters : new.counters = old.counters
  others : kind.address? ≠ some a → new = old
  payment : ∀ e, kind = .invoice e → new = { old with
    subscription := { old.subscription with
      lastPaymentDate := new.subscription.lastPaymentDate } }
  record : ∀ e, kind = .subscription e →
    new.subscription.lastPaymentDate = old.subscription.lastPaymentDate

/-- An event that begins a year of a tenant. -/
def EventKind.BeginsYear (kind : EventKind) (address : String) : Prop :=
  ∃ e, kind = .subscription e ∧ (e.status = .active ∨ e.status = .trialing) ∧
    e.period = .annual ∧ e.address = address

/-- Nothing is touched in a store but what an event of a kind owns. -/
structure Store.Touches (kind : EventKind) (s t : Store) : Prop where
  organizations : ∀ a, Option.Rel (kind.MayTurn a) (s.organization? a) (t.organization? a)
  /-- The snapshots that were there stay, and one more at most is there. -/
  snapshots : t.snapshots = s.snapshots ∨ ∃ x : Snapshot, kind.BeginsYear x.address ∧
    s.snapshots.get? x.key = none ∧ t.snapshots = s.snapshots.insert x.key x
  catalog : ∀ id, (t.plans.get? id).map offer = (s.plans.get? id).map offer
  plan : ∀ id, t.plans.get? id ≠ s.plans.get? id →
    ∃ e plan, kind = .product e ∧ s.planOfProduct? e.productId = some plan ∧ plan.id = id
  rest : t = { s with
    organizations := t.organizations
    plans := t.plans
    snapshots := t.snapshots
    subscriptionWrites := t.subscriptionWrites }

namespace EventKind.MayTurn
variable {kind : EventKind} {a : String} {org : Organization}

theorem refl (kind : EventKind) (a : String) (org : Organization) : kind.MayTurn a org org :=
  ⟨rfl, rfl, fun _ => rfl, fun _ _ => rfl, fun _ _ => rfl⟩

/-- An event makes of its organization what it may. -/
theorem of_amended (s : Store) (now : DateTime) (p : Provider) (hk : kind.address? = some a) :
    kind.MayTurn a org
      { org with subscription := Delivery.amended s now p org.subscription kind } := by
  refine ⟨rfl, rfl, fun other => absurd hk other, ?_, ?_⟩
  · rintro e rfl
    simp only [Delivery.amended]
    split <;> rfl
  · rintro e rfl
    exact Delivery.amended_lastPaymentDate s now p e org.subscription

end EventKind.MayTurn

namespace Store
variable {s t u : Store} {kind : EventKind} {now : DateTime} {p : Provider}

theorem Touches.refl (kind : EventKind) (s : Store) : Touches kind s s where
  organizations a := by
    cases s.organization? a with
    | none => exact .none
    | some org => exact .some (.refl kind a org)
  snapshots := Or.inl rfl
  catalog _ := rfl
  plan _ changed := absurd rfl changed
  rest := rfl

/-- An organization is there before and after, or not at all. -/
theorem Touches.organization_cases (h : s.Touches kind t) (a : String) :
    (s.organization? a = none ∧ t.organization? a = none) ∨
      ∃ old new, s.organization? a = some old ∧ t.organization? a = some new ∧
        kind.MayTurn a old new := by
  have organization := h.organizations a
  generalize s.organization? a = x at organization
  generalize t.organization? a = y at organization
  cases organization with
  | none => exact Or.inl ⟨rfl, rfl⟩
  | some turned => exact Or.inr ⟨_, _, rfl, rfl, turned⟩

/-- The organizations that an event leaves are what the event may make of them. -/
theorem mayTurn_of_change (h : Delivery.Change s now p kind t) (a : String) :
    Option.Rel (kind.MayTurn a) (s.organization? a) (t.organization? a) := by
  rw [h.organizations a]
  cases s.organization? a with
  | none => exact .none
  | some org =>
    refine .some ?_
    dsimp only
    split
    · rename_i hk
      exact .of_amended s now p hk
    · exact .refl kind a org

/-- The plans that an event leaves: those there were, the one sold under a product apart, which
keeps its id, its product and its standing. -/
theorem plans_of_change (h : Delivery.Change s now p kind t) :
    t.plans = s.plans ∨ ∃ e plan new, kind = .product e ∧
      s.planOfProduct? e.productId = some plan ∧ offer new = offer plan ∧
      t.plans = s.plans.insert new.id new := by
  have plans := h.plans
  cases hnew : Delivery.refreshed? s p kind with
  | none =>
    rw [hnew] at plans
    exact Or.inl plans
  | some new =>
    rw [hnew] at plans
    obtain ⟨e, plan, _, hk, sold, -, described⟩ := Delivery.refreshed?_some hnew
    obtain ⟨hid, hproduct, hdefault⟩ := planOfProduct_ok described
    refine Or.inr ⟨e, plan, new, hk, sold, ?_, plans⟩
    simp only [offer, hid, hproduct, hdefault]

/-- An event touches what it owns. -/
theorem touches_of_change (hs : s.Sound) (h : Delivery.Change s now p kind t) :
    s.Touches kind t where
  organizations := mayTurn_of_change h
  snapshots := by
    obtain ⟨id, snapshots⟩ := h.snapshots
    cases opens : Delivery.opening? s now kind with
    | none =>
      rw [opens] at snapshots
      exact Or.inl snapshots
    | some x =>
      rw [opens] at snapshots
      dsimp only at snapshots
      obtain ⟨e, rfl, live, annual, haddress⟩ := Delivery.opening?_some hs opens
      cases stored : s.snapshots.get? { x with id }.key with
      | some y =>
        rw [openSnapshot_of_stored stored] at snapshots
        exact Or.inl snapshots
      | none =>
        rw [openSnapshot_of_fresh stored] at snapshots
        have begins : (EventKind.subscription e).BeginsYear x.address :=
          ⟨e, rfl, Reconcile.effectOf_eq_live_iff.mp live, annual, haddress.symm⟩
        exact Or.inr ⟨{ x with id }, begins, stored, snapshots⟩
  catalog id := by
    rcases plans_of_change h with same | ⟨e, plan, new, -, sold, hnew, same⟩
    · rw [same]
    · rw [same, Table.get?_insert]
      split
      · rename_i hid
        rw [hid, (Prod.mk.inj hnew).1, Delivery.get?_of_sold hs sold]
        exact congrArg some hnew
      · rfl
  plan id changed := by
    rcases plans_of_change h with same | ⟨e, plan, new, hk, sold, hnew, same⟩
    · exact absurd (congrArg (·.get? id) same) changed
    · refine ⟨e, plan, hk, sold, ?_⟩
      by_contra other
      rw [same, Table.get?_insert_of_ne] at changed
      · exact changed rfl
      · rw [(Prod.mk.inj hnew).1]
        exact Ne.symm other
  rest := h.rest

/-- A delivery touches what its event owns, even if the event was only half applied. -/
theorem touches_of_half {e : SubscriptionEvent} {f : Failure} {mayFail : Prop} {a : Scene}
    {t : Store} (hs : a.store.Sound) (half : HalfApplied mayFail a e f t) :
    a.store.Touches (.subscription e) t := by
  obtain ⟨whole, settled, organizations⟩ := half.settle default
  have change := Delivery.Change.of_settled hs settled
  have mayTurn := mayTurn_of_change change
  unfold organization? at mayTurn
  rw [organizations] at mayTurn
  obtain ⟨-, -, -, -, org, plan, -, -, rfl⟩ := half
  refine ⟨mayTurn, Or.inl (assign_snapshots _ _ _), fun id => ?_, fun id changed => ?_, ?_⟩
  · rw [assign_rest]
  · rw [assign_rest] at changed
    exact absurd rfl changed
  · rw [assign_rest]

end Store

namespace Delivery

/-- However handling an event ends, it touches what the event owns. -/
theorem Handled.touches {mayFail : Prop} {event : Event} {r : Except Failure DeliveryOutcome}
    {a b : Scene} (hs : a.store.Sound) (h : Handled mayFail event a r b) :
    a.store.Touches event.kind b.store := by
  rcases h.store_cases hs with same | ⟨id, done⟩ | ⟨e, f, hk, half⟩
  · rw [same]
    exact .refl _ _
  · exact Store.touches_of_change hs (.of_settled hs done)
  · rw [hk]
    exact Store.touches_of_half hs half

end Delivery

namespace World
variable {w : World} {op : Operation}

/-- A delivery of whatever was sent touches nothing but what its event owns, whether it succeeds or
fails, and whatever failed on the way; a delivery without an event touches nothing. -/
theorem delivery_touches (sound : w.store.Sound) (delivery : op.IsDelivery) :
    match w.event? op with
    | none => (w.step op).2.store = w.store
    | some event => w.store.Touches event.kind (w.step op).2.store := by
  cases he : w.event? op with
  | none => exact store_of_event?_none delivery he
  | some event =>
    rw [step_of_event? he]
    cases hrun : w.run (Delivery.handle event) with
    | mk r u =>
      rcases handled hrun with ⟨-, handled⟩ | ⟨-, rfl⟩
      · exact handled.touches sound
      · exact .refl _ _

/-- An organization that has paid subscribes for a year, and keeps the date of its payment. -/
theorem subscribed_after_payment :
    let w := sample.after [.deliver samplePayment]
    let u := (w.step (.deliver sampleSubscribed)).2
    w.store.Touches sampleSubscribed.kind u.store ∧
      (u.store.organization? "0xa1").map (·.subscription.lastPaymentDate) =
        some (some (newYear 2024 (by decide))) := by
  intro w u
  have sound : w.store.Sound := sound_after (w := sample) (fun op hop => by
    obtain rfl := List.mem_singleton.mp hop
    trivial) Store.sample_sound
  have paid : (u.store.organization? "0xa1").map (·.subscription.lastPaymentDate) =
      some (some (newYear 2024 (by decide))) := by decide +kernel
  exact ⟨@delivery_touches w (.deliver sampleSubscribed) sound trivial, paid⟩

end World

end TenantBilling
