import TenantBilling.Proofs.Frame
import TenantBilling.Proofs.Settlement

/-! The opening of periods. A period is opened by a snapshot that stands under its key from then
on: who opens it again finds the snapshot that is there. Queries open periods of the organization
they are about, with the counters it has. -/

namespace TenantBilling

open Calendar

namespace Store
variable {s t : Store} {org : Organization} {now : DateTime} {id : Uuid}

/-- A store with at most one more period open, and nothing else changed. -/
inductive Opened (s : Store) : Store → Prop
  | same : Opened s s
  | another {x : Snapshot} (fresh : s.snapshots.get? x.key = none) :
    Opened s { s with snapshots := s.snapshots.insert x.key x }

/-- Nothing but a snapshot is new. -/
theorem Opened.rest (h : s.Opened t) : t = { s with snapshots := t.snapshots } := by
  cases h <;> rfl

theorem openSnapshot_of_stored {x y : Snapshot} (h : s.snapshots.get? x.key = some y) :
    s.openSnapshot x = (s, y) := by
  unfold openSnapshot
  rw [h]

theorem openSnapshot_of_fresh {x : Snapshot} (h : s.snapshots.get? x.key = none) :
    s.openSnapshot x = ({ s with snapshots := s.snapshots.insert x.key x }, x) := by
  unfold openSnapshot
  rw [h]

theorem opened_openSnapshot (s : Store) (x : Snapshot) : s.Opened (s.openSnapshot x).1 := by
  cases h : s.snapshots.get? x.key with
  | some y =>
    rw [openSnapshot_of_stored h]
    exact .same
  | none =>
    rw [openSnapshot_of_fresh h]
    exact .another h

theorem opened_withBaseline (s : Store) (org : Organization) (now : DateTime) (id : Uuid) :
    s.Opened (s.withBaseline org now id) := by
  unfold withBaseline
  split
  · exact .same
  · exact opened_openSnapshot _ _

/-- Whether the current period of an organization, when it has one, is open. -/
def Covers (s : Store) (org : Organization) (now : DateTime) : Prop :=
  ∀ window, currentPeriod? org.subscription now = some window →
    (s.snapshot? org.address window.start).isSome = true

/-- The snapshot that opening a period answers with is the one that is stored then. -/
theorem get?_openSnapshot (s : Store) (x : Snapshot) :
    (s.openSnapshot x).1.snapshots.get? x.key = some (s.openSnapshot x).2 := by
  cases h : s.snapshots.get? x.key with
  | some y => rw [openSnapshot_of_stored h, h]
  | none =>
    rw [openSnapshot_of_fresh h]
    exact Table.get?_insert_self _ _ _

theorem covers_withBaseline : (s.withBaseline org now id).Covers org now := by
  intro window hwindow
  unfold withBaseline
  rw [hwindow]
  exact Option.isSome_of_eq_some (get?_openSnapshot s (baseline org window now id))

/-- Nobody opens a period that is open. -/
theorem withBaseline_of_covers (h : s.Covers org now) : s.withBaseline org now id = s := by
  unfold withBaseline
  cases hwindow : currentPeriod? org.subscription now with
  | none => rfl
  | some window =>
    obtain ⟨stored, hstored⟩ := Option.isSome_iff_exists.mp (h window hwindow)
    have hkey : s.snapshots.get? (baseline org window now id).key = some stored := hstored
    exact congrArg Prod.fst (openSnapshot_of_stored hkey)

end Store

/-! ## Queries -/

/-- A call that a query about an organization makes: it opens periods of that organization alone,
with its counters. -/
def Call.IsQueryOf (org : Organization) : Call → Prop
  | .store (.openSnapshot x) => x.address = org.address ∧ x.baseline = org.counters
  | c => c.IsQuery

namespace Usage
open TenantBilling.Action
variable {org : Organization}

theorem openPeriod_opens (window : Window) : Within (Call.IsQueryOf org) (openPeriod org window) :=
  (within_freshId trivial).bind fun _ => (within_now trivial).bind fun _ =>
    within_store _ ⟨rfl, rfl⟩

theorem baselineOf_opens (window : Window) :
    Within (Call.IsQueryOf org) (baselineOf org window) := by
  refine (within_store _ trivial).bind fun stored => ?_
  cases stored with
  | none => exact openPeriod_opens window
  | some stored => exact within_pure stored

theorem ofOrganization_opens : Within (Call.IsQueryOf org) (ofOrganization org) := by
  refine (within_now trivial).bind fun now => ?_
  cases currentPeriod? org.subscription now with
  | none => exact within_pure _
  | some window => exact (baselineOf_opens window).bind fun _ => within_pure _

/-- The usage of an organization: its lifetime counters without a period, and what came on top
of the baseline of the period otherwise, unless a call to the store fails. -/
theorem gives_ofOrganization {mayFail : Prop} {s t : Scene} {r : Except Failure PeriodUsage}
    (h : (ofOrganization org).Gives mayFail s r t) :
    (currentPeriod? org.subscription s.now = none ∧ r = .ok ⟨org.counters, false, none⟩ ∧ t = s) ∨
      ∃ window, currentPeriod? org.subscription s.now = some window ∧
        ((∃ id, let opened := s.store.openSnapshot (Store.baseline org window s.now id)
            r = .ok ⟨org.counters.since opened.2.baseline, true, some window⟩ ∧
              t = { s with store := opened.1 }) ∨
          (mayFail ∧ (∃ op, r = .error (.storeDown op)) ∧ t = s)) := by
  unfold ofOrganization at h
  have h := gives_bind_now.mp h
  cases hwindow : currentPeriod? org.subscription s.now with
  | none =>
    rw [hwindow] at h
    obtain ⟨rfl, rfl⟩ := gives_pure.mp h
    exact Or.inl ⟨rfl, rfl, rfl⟩
  | some window =>
    rw [hwindow] at h
    refine Or.inr ⟨window, rfl, ?_⟩
    rcases gives_bind.mp h with ⟨x, u, hx, h⟩ | ⟨f, hx, rfl⟩
    · obtain ⟨rfl, rfl⟩ := gives_pure.mp h
      rcases gives_baselineOf hx with ⟨id, hr, ht⟩ | ⟨-, hr | hr, -⟩
      · cases hr
        exact Or.inl ⟨id, rfl, ht⟩
      · cases hr
      · cases hr
    · rcases gives_baselineOf hx with ⟨id, hr, -⟩ | ⟨hf, hr | hr, rfl⟩
      · cases hr
      · cases hr
        exact Or.inr ⟨hf, ⟨_, rfl⟩, rfl⟩
      · cases hr
        exact Or.inr ⟨hf, ⟨_, rfl⟩, rfl⟩

/-- In a period, what comes after the usage goes on from the snapshot of the period. -/
theorem gives_bind_ofOrganization {α : Type} {mayFail : Prop} {f : PeriodUsage → Action α}
    {s t : Scene} {r : Except Failure α} {window : Window}
    (current : currentPeriod? org.subscription s.now = some window)
    (h : (ofOrganization org >>= f).Gives mayFail s r t) :
    (∃ id, let opened := s.store.openSnapshot (Store.baseline org window s.now id)
        (f ⟨org.counters.since opened.2.baseline, true, some window⟩).Gives mayFail
          { s with store := opened.1 } r t) ∨
      (mayFail ∧ (∃ op, r = .error (.storeDown op)) ∧ t = s) := by
  have found {q : Except Failure PeriodUsage} {u : Scene}
      (hq : (ofOrganization org).Gives mayFail s q u) := (gives_ofOrganization hq).resolve_left
    fun hnone => nomatch current.symm.trans hnone.1
  rcases gives_bind.mp h with ⟨usage, u, hx, h⟩ | ⟨f, hx, rfl⟩
  · obtain ⟨window', hw, ⟨id, hr, rfl⟩ | ⟨-, ⟨op, hr⟩, -⟩⟩ := found hx
    · obtain rfl := Option.some.inj (current.symm.trans hw)
      obtain rfl := Except.ok.inj hr
      exact Or.inl ⟨id, h⟩
    · cases hr
  · obtain ⟨window', -, ⟨id, hr, -⟩ | ⟨hf, ⟨op, hr⟩, rfl⟩⟩ := found hx
    · cases hr
    · cases hr
      exact Or.inr ⟨hf, ⟨op, rfl⟩, rfl⟩

/-- The usage under an address: that of the organization there, unless there is none, or a call
to the store fails. -/
theorem gives_ofAddress {mayFail : Prop} {address : String} {s t : Scene}
    {r : Except Failure PeriodUsage} (h : (ofAddress address).Gives mayFail s r t) :
    ((s.store.organization? address = none ∨ mayFail) ∧ (∃ f, r = .error f) ∧ t = s) ∨
      ∃ org, s.store.organization? address = some org ∧
        ((currentPeriod? org.subscription s.now = none ∧ r = .ok ⟨org.counters, false, none⟩ ∧
            t = s) ∨
          ∃ window id, currentPeriod? org.subscription s.now = some window ∧
            let opened := s.store.openSnapshot (Store.baseline org window s.now id)
            r = .ok ⟨org.counters.since opened.2.baseline, true, some window⟩ ∧
              t = { s with store := opened.1 }) := by
  rcases gives_bind_loadOrganization h with ⟨org, stored, h⟩ | ⟨hnone, rfl, rfl⟩ | ⟨hf, rfl, rfl⟩
  · rcases gives_ofOrganization h with
      hnone | ⟨window, hwindow, ⟨id, hr, ht⟩ | ⟨hf, ⟨op, rfl⟩, rfl⟩⟩
    · exact Or.inr ⟨org, stored, Or.inl hnone⟩
    · exact Or.inr ⟨org, stored, Or.inr ⟨window, id, hwindow, hr, ht⟩⟩
    · exact Or.inl ⟨Or.inr hf, ⟨_, rfl⟩, rfl⟩
  · exact Or.inl ⟨Or.inl hnone, ⟨_, rfl⟩, rfl⟩
  · exact Or.inl ⟨Or.inr hf, ⟨_, rfl⟩, rfl⟩

end Usage

namespace Entitlement
open TenantBilling.Action
variable {org : Organization}

theorem gives_bind_loadPlan {α : Type} {mayFail : Prop} {f : Plan → Action α} {s t : Scene}
    {r : Except Failure α} (h : (loadPlan org >>= f).Gives mayFail s r t) :
    (∃ plan, s.store.plans.get? org.subscription.planId = some plan ∧
        (f plan).Gives mayFail s r t) ∨
      (s.store.plans.get? org.subscription.planId = none ∧
        r = .error (.error (.planNotFound
          ("plan " ++ Text.decimal org.subscription.planId ++ " of " ++ org.address))) ∧ t = s) ∨
      (mayFail ∧ r = .error (.storeDown .plan) ∧ t = s) := by
  unfold loadPlan at h
  dsimp only at h
  rw [bind_assoc] at h
  rcases gives_bind_read rfl h with h | h
  · exact (gives_bind_orFail.mp h).imp id Or.inl
  · exact Or.inr (Or.inr h)

theorem loadPlan_opens (of : Organization) : Within (Call.IsQueryOf org) (loadPlan of) :=
  (within_store _ trivial).bind fun _ => within_orFail _ _

theorem txUsage_opens (tx : TxRequest) : Within (Call.IsQueryOf org) (txUsage org tx) := by
  unfold txUsage
  split
  · exact Usage.ofOrganization_opens.map _
  · exact within_pure _

theorem quotaUsage_opens (address : String) (action : QuotaAction) :
    Within (Call.IsQueryOf org) (quotaUsage org address action) := by
  cases action with
  | createDraft => exact (within_store _ trivial).bind fun _ => within_pure _
  | inviteUser => exact (within_store _ trivial).bind fun _ => within_pure _
  | createSubOrg => exact (within_store _ trivial).bind fun _ => within_pure _
  | publishCensus _ _ _ => exact Usage.ofOrganization_opens.bind fun _ => within_pure _
  | deleteUser => exact within_pure _

end Entitlement

end TenantBilling
