import TenantBilling.Store

/-! What every store keeps: records stand under their own keys, and no plan has the id zero
or one that is still to be given out. The invariant holds of the empty store, and no
operation breaks it. -/

namespace TenantBilling

structure Store.Sound (s : Store) : Prop where
  organization : ∀ a org, s.organizations.get? a = some org → org.address = a
  plan : ∀ id p, s.plans.get? id = some p → p.id = id
  planId : ∀ id p, s.plans.get? id = some p → id ≠ 0 ∧ id ≤ s.lastPlanId
  lastPlanId : 0 ≤ s.lastPlanId
  snapshot : ∀ k x, s.snapshots.get? k = some x → x.key = k

namespace Store.Sound

theorem initial : (default : Store).Sound where
  organization := by intro a org h; cases h
  plan := by intro id p h; cases h
  planId := by intro id p h; cases h
  lastPlanId := Int.le_refl 0
  snapshot := by intro k x h; cases h

variable {s : Store}

theorem setOrganization (h : s.Sound) (org : Organization) : (s.setOrganization org).Sound where
  organization := by
    intro a o ho
    simp only [Store.setOrganization, Table.get?_insert] at ho
    split at ho
    · cases ho; symm; assumption
    · exact h.organization a o ho
  plan := h.plan
  planId := h.planId
  lastPlanId := h.lastPlanId
  snapshot := h.snapshot

theorem setSubscription (h : s.Sound) {address : String} {subscription : Subscription} {s' : Store}
    (hs : s.setSubscription address subscription = .ok s') : s'.Sound := by
  unfold Store.setSubscription at hs
  split at hs
  · cases hs
  · rename_i org horg
    cases hs
    refine ⟨fun a o ho => ?_, h.plan, h.planId, h.lastPlanId, h.snapshot⟩
    simp only [Table.get?_insert] at ho
    split at ho
    · cases ho
      rename_i ha
      exact ha ▸ h.organization address org horg
    · exact h.organization a o ho

theorem setPlan (h : s.Sound) (plan : Plan) : (s.setPlan plan).1.Sound := by
  have hlast := h.lastPlanId
  unfold Store.setPlan
  split
  · refine ⟨h.organization, fun id p hp => ?_, fun id p hp => ?_, by dsimp only; omega, h.snapshot⟩
    all_goals
      simp only [Table.get?_insert] at hp
      split at hp
    · cases hp; symm; assumption
    · exact h.plan id p hp
    · dsimp only; omega
    · have := h.planId id p hp
      dsimp only; omega
  · rename_i hid
    refine ⟨h.organization, fun id p hp => ?_, fun id p hp => ?_, by dsimp only; omega, h.snapshot⟩
    all_goals
      simp only [Table.get?_insert] at hp
      split at hp
    · cases hp; symm; assumption
    · exact h.plan id p hp
    · rename_i he
      subst he
      exact ⟨hid, Int.le_max_right _ _⟩
    · have := h.planId id p hp
      dsimp only; omega

theorem openSnapshot (h : s.Sound) (candidate : Snapshot) : (s.openSnapshot candidate).1.Sound := by
  unfold Store.openSnapshot
  split
  · exact h
  · refine ⟨h.organization, h.plan, h.planId, h.lastPlanId, fun k x hx => ?_⟩
    simp only [Table.get?_insert] at hx
    split at hx
    · cases hx; symm; assumption
    · exact h.snapshot k x hx

/-- No call breaks the invariant. -/
theorem answer (h : s.Sound) (c : StoreCall) : (s.answer c).2.Sound := by
  cases c with
  | setOrganization org => exact h.setOrganization org
  | setSubscription address subscription =>
    simp only [Store.answer]
    split
    · rename_i hs
      exact h.setSubscription hs
    · exact h
  | setPlan plan => exact h.setPlan plan
  | openSnapshot candidate => exact h.openSnapshot candidate
  | _ => exact h

/-- No two organizations have one address. -/
theorem nodup_addresses (h : s.Sound) : (s.organizations.values.map (·.address)).Nodup := by
  rw [s.organizations.map_values_eq_keys h.organization]
  exact s.organizations.nodup_keys

end Store.Sound

end TenantBilling
