import TenantBilling.Health.Check

/-! What a healthy report means: there is one default plan, and the subscription of every
organization makes sense in the catalog. -/

namespace TenantBilling

/-- A subscription that makes sense in a catalog: its plan is there, the default plan is not billed
by the provider, and an active subscription to another plan is. -/
structure Subscription.Sane (plans : List Plan) (s : Subscription) : Prop where
  known : s.hasPlan = true → ∃ p ∈ plans, p.id = s.planId
  unbilled : s.planId ∈ Health.defaultIds plans → s.hasProvider = false
  billed : s.active = true → s.hasPlan = true → s.planId ∉ Health.defaultIds plans →
    s.hasProvider = true

namespace Health
variable {plans : List Plan} {orgs : List Organization}

theorem checkDefault_eq_nil_iff : checkDefault plans = [] ↔ (defaultIds plans).length = 1 := by
  unfold checkDefault
  dsimp only
  split <;> simp_all

theorem eraseDups_eq_nil_iff {α : Type} [BEq α] {l : List α} : l.eraseDups = [] ↔ l = [] := by
  cases l with
  | nil => simp
  | cons a l => simp [List.eraseDups_cons]

theorem checkKnown_eq_nil_iff :
    checkKnown plans orgs = [] ↔ ∀ o ∈ orgs, dangles plans o = false := by
  unfold checkKnown
  rw [← List.length_eq_zero_iff, List.length_mergeSort, List.length_map, List.length_eq_zero_iff,
    eraseDups_eq_nil_iff, List.map_eq_nil_iff, List.filter_eq_nil_iff]
  simp only [Bool.not_eq_true]

theorem checkDefaultPlan_eq_nil_iff : checkDefaultPlan plans orgs = [] ↔
    ∀ o ∈ orgs, ¬(isOnDefault plans o = true ∧ o.subscription.hasProvider = true) := by
  unfold checkDefaultPlan
  dsimp only
  split
  · rename_i none
    rw [List.filter_eq_nil_iff] at none
    simpa using none
  · rename_i some
    rw [List.filter_eq_nil_iff] at some
    simpa using some

theorem checkPaidPlan_eq_nil_iff : checkPaidPlan plans orgs = [] ↔
    ∀ o ∈ orgs, ¬(o.subscription.active = true ∧ o.subscription.hasPlan = true ∧
      isOnDefault plans o = false ∧ o.subscription.hasProvider = false) := by
  unfold checkPaidPlan
  dsimp only
  split
  · rename_i none
    rw [List.filter_eq_nil_iff] at none
    simpa [and_assoc] using none
  · rename_i some
    rw [List.filter_eq_nil_iff] at some
    simpa [and_assoc] using some

theorem isOnDefault_iff (o : Organization) :
    isOnDefault plans o = true ↔ o.subscription.planId ∈ defaultIds plans := by
  unfold isOnDefault
  rw [List.contains_iff_mem]

theorem dangles_eq_false_iff (o : Organization) : dangles plans o = false ↔
    (o.subscription.hasPlan = true → ∃ p ∈ plans, p.id = o.subscription.planId) := by
  unfold dangles
  cases o.subscription.hasPlan <;> simp

/-- A subscription makes sense when no check but that of the catalog finds its organization. -/
theorem sane_iff (o : Organization) : o.subscription.Sane plans ↔ dangles plans o = false ∧
    ¬(isOnDefault plans o = true ∧ o.subscription.hasProvider = true) ∧
    ¬(o.subscription.active = true ∧ o.subscription.hasPlan = true ∧
      isOnDefault plans o = false ∧ o.subscription.hasProvider = false) := by
  rw [dangles_eq_false_iff, ← Bool.not_eq_true (isOnDefault plans o), isOnDefault_iff]
  constructor
  · intro h
    refine ⟨h.known, fun ⟨free, billed⟩ => ?_, fun ⟨active, assigned, sold, unbilled⟩ => ?_⟩
    · rw [h.unbilled free] at billed
      cases billed
    · rw [h.billed active assigned sold] at unbilled
      cases unbilled
  · rintro ⟨known, unbilled, billed⟩
    refine ⟨known, fun free => ?_, fun active assigned sold => ?_⟩
    · cases hp : o.subscription.hasProvider with
      | false => rfl
      | true => exact absurd ⟨free, hp⟩ unbilled
    · cases hp : o.subscription.hasProvider with
      | false => exact absurd ⟨active, assigned, sold, hp⟩ billed
      | true => rfl

theorem violations_eq_nil_iff : violations plans orgs = [] ↔
    (defaultIds plans).length = 1 ∧ ∀ o ∈ orgs, o.subscription.Sane plans := by
  have checks : violations plans orgs = [] ↔ checkDefault plans = [] ∧
      checkKnown plans orgs = [] ∧ checkDefaultPlan plans orgs = [] ∧
      checkPaidPlan plans orgs = [] := by
    simp [violations, Check.all, Check.run]
  simp only [checks, checkDefault_eq_nil_iff, checkKnown_eq_nil_iff, checkDefaultPlan_eq_nil_iff,
    checkPaidPlan_eq_nil_iff, sane_iff, forall_and]

/-- A report is healthy when there is one default plan and every subscription makes sense. -/
theorem healthy_iff (checkedAt : Calendar.DateTime) :
    (summarize checkedAt plans orgs).healthy = true ↔
      (defaultIds plans).length = 1 ∧ ∀ o ∈ orgs, o.subscription.Sane plans := by
  unfold summarize
  rw [List.isEmpty_iff, violations_eq_nil_iff]

end Health

end TenantBilling
