import Mathlib.Data.List.Nodup
import TenantBilling.Health.Inspect
import TenantBilling.Proofs.HealthChecks
import TenantBilling.Proofs.History
import TenantBilling.Proofs.Numerals
import TenantBilling.Proofs.Scene
import TenantBilling.Proofs.StoreInvariant

/-! What a health report says. Every check names the organizations it objects to, each of them
once, and no others; it says how many they are, and with what it found them. Organizations on
missing plans are named in groups, one for each plan; the groups are sorted by their descriptions,
no two of which are alike, so that it does not matter in which order the plans come up. -/

namespace TenantBilling

namespace Health

/-- What a check objects to in the subscription of an organization. -/
def Check.Offends (plans : List Plan) (s : Subscription) : Check → Prop
  | singleDefaultPlan => False
  | knownPlans => s.planId ≠ 0 ∧ ∀ p ∈ plans, p.id ≠ s.planId
  | defaultPlanHasNoProvider =>
    (∃ p ∈ plans, p.isDefault = true ∧ p.id = s.planId) ∧ s.providerId ≠ ""
  | paidPlanHasProvider => s.active = true ∧ s.planId ≠ 0 ∧
    (∀ p ∈ plans, p.isDefault = true → p.id ≠ s.planId) ∧ s.providerId = ""

instance Check.decidableOffends (plans : List Plan) (s : Subscription) (c : Check) :
    Decidable (c.Offends plans s) :=
  match c with
  | singleDefaultPlan => inferInstanceAs (Decidable False)
  | knownPlans => inferInstanceAs (Decidable (_ ∧ _))
  | defaultPlanHasNoProvider => inferInstanceAs (Decidable (_ ∧ _))
  | paidPlanHasProvider => inferInstanceAs (Decidable (_ ∧ _))

/-- Whether a check finds an organization. -/
def Check.finds (plans : List Plan) (o : Organization) : Check → Bool
  | singleDefaultPlan => false
  | knownPlans => dangles plans o
  | defaultPlanHasNoProvider => isOnDefault plans o && o.subscription.hasProvider
  | paidPlanHasProvider => o.subscription.active && o.subscription.hasPlan &&
    !isOnDefault plans o && !o.subscription.hasProvider

/-- The organizations that violations are about, as often as they are named. -/
def named (found : List Violation) : List String := found.flatMap (·.addresses)

/-- The organizations that a check objects to. -/
def Check.offenders (plans : List Plan) (orgs : List Organization) (c : Check) :
    List Organization :=
  orgs.filter fun o => c.Offends plans o.subscription

/-- What a check says of some organizations at once: who they are, and how many. -/
def objection (check : String) (affected : List Organization) (words : String)
    (context : Json.Value) (severity : Severity) : Violation where
  check
  addresses := affected.map (·.address)
  description := toString affected.length ++ words
  context
  severity

/-- The organizations on a missing plan, as they are reported. -/
def group (orgs : List Organization) (planId : Int) : Violation :=
  objection "organizations_reference_known_plans"
    (orgs.filter fun o => o.subscription.planId == planId)
    (" organization(s) reference missing plan " ++ toString planId)
    (.object [("plan_id", .int planId)]) .high

/-- Organizations on the default plan that the provider still bills, as they are reported. -/
def stillBilled (affected : List Organization) : Violation :=
  objection "default_plan_has_no_provider_subscription" affected
    " organization(s) on the default plan still reference a provider subscription"
    (.object [("subscription_ids",
      .array (affected.map fun o => .string o.subscription.providerId))]) .medium

/-- Active organizations on another plan that the provider does not bill, as they are reported. -/
def neverBilled (affected : List Organization) : Violation :=
  objection "paid_plan_has_provider_subscription" affected
    " active organization(s) on a paid plan have no provider subscription"
    (.object [("plan_ids", .array (affected.map fun o => .int o.subscription.planId))]) .high

/-- One violation about all that are affected, if there are any. -/
def together (about : List Organization → Violation) (affected : List Organization) :
    List Violation :=
  if affected = [] then [] else [about affected]

/-- A catalog without exactly one default plan, as it is reported. -/
def unsettledCatalog (plans : List Plan) : Violation where
  check := "single_default_plan"
  addresses := []
  description := "Catalog has " ++ toString (plans.filter (·.isDefault)).length ++
    " default plans (expected 1)"
  context := .object [("default_plan_ids",
    .array ((plans.filter (·.isDefault)).map fun p => .int p.id))]
  severity := .critical

/-- Puts groups in the order of their descriptions. -/
def sortGroups (groups : List Violation) : List Violation :=
  groups.mergeSort fun a b => a.description ≤ b.description

/-- The plans that are assigned but missing, each once, in some order. -/
structure Missing (plans : List Plan) (orgs : List Organization) (planIds : List Int) : Prop where
  nodup : planIds.Nodup
  mem_iff : ∀ id, id ∈ planIds ↔ ∃ o ∈ orgs, Check.knownPlans.Offends plans o.subscription ∧
    o.subscription.planId = id

/-- A report on plans and organizations in which nothing is left out and nothing made up. What
every check finds by itself is listed under it, in the words that belong to it. -/
structure Exact (plans : List Plan) (orgs : List Organization) (found : Check → List Violation)
    (report : HealthSummary) : Prop where
  violations : report.violations = found .singleDefaultPlan ++ found .knownPlans ++
    found .defaultPlanHasNoProvider ++ found .paidPlanHasProvider
  healthy : report.healthy = true ↔ (plans.filter (·.isDefault)).length = 1 ∧
    ∀ o ∈ orgs, ∀ c : Check, ¬c.Offends plans o.subscription
  ofCheck : ∀ c, ∀ v ∈ found c, v.check = c.name
  satisfied : ∀ c, found c = [] ↔
    (c = .singleDefaultPlan → (plans.filter (·.isDefault)).length = 1) ∧
      ∀ o ∈ orgs, ¬c.Offends plans o.subscription
  once : ∀ c, (named (found c)).Nodup
  named : ∀ c a, a ∈ named (found c) ↔ ∃ o ∈ orgs, o.address = a ∧ c.Offends plans o.subscription
  catalog : found .singleDefaultPlan =
    if (plans.filter (·.isDefault)).length = 1 then [] else [unsettledCatalog plans]
  missing : ∃ planIds, Missing plans orgs planIds
  /-- In whichever order the missing plans come up, they are reported in one order. -/
  groups : ∀ planIds, Missing plans orgs planIds →
    found .knownPlans = sortGroups (planIds.map (group orgs))
  ascending : (found .knownPlans).Pairwise fun a b => a.description < b.description
  stillBilled : found .defaultPlanHasNoProvider =
    together stillBilled (Check.defaultPlanHasNoProvider.offenders plans orgs)
  neverBilled : found .paidPlanHasProvider =
    together neverBilled (Check.paidPlanHasProvider.offenders plans orgs)
  checksRun : report.checksRun = 4
  checksFailed : report.checksFailed = (Check.all.filter fun c => !(found c).isEmpty).length
  checksPassed : report.checksPassed + report.checksFailed = report.checksRun

section Findings
variable {plans : List Plan} {orgs : List Organization} {c : Check} {o o' : Organization}
  {planIds planIds' : List Int} {id id' : Int}

/-! ## What checks find -/

theorem mem_defaultIds : id ∈ defaultIds plans ↔ ∃ p ∈ plans, p.isDefault = true ∧ p.id = id := by
  simp [defaultIds, and_assoc]

/-- A check finds the organizations it objects to. -/
theorem Check.finds_iff : c.finds plans o = true ↔ c.Offends plans o.subscription := by
  have free : isOnDefault plans o = true ↔
      ∃ p ∈ plans, p.isDefault = true ∧ p.id = o.subscription.planId :=
    (isOnDefault_iff o).trans mem_defaultIds
  cases c with
  | singleDefaultPlan => exact iff_of_false nofun id
  | knownPlans => simp [finds, dangles, Offends, Subscription.hasPlan_iff]
  | defaultPlanHasNoProvider =>
    simp only [finds, Offends, Bool.and_eq_true, free, Subscription.hasProvider_iff]
  | paidPlanHasProvider =>
    simp only [finds, Offends, Bool.and_eq_true, Bool.not_eq_true', ← Bool.not_eq_true, free,
      Subscription.hasPlan_iff, Subscription.hasProvider_iff]
    simp [and_assoc]

theorem Check.offenders_eq (c : Check) :
    c.offenders plans orgs = orgs.filter (c.finds plans) := by
  refine List.filter_congr fun o _ => ?_
  rw [Bool.eq_iff_iff, finds_iff, decide_eq_true_eq]

/-- The check of the catalog looks at the plans alone; every other check is satisfied when it
finds no organization. -/
theorem Check.run_eq_nil_iff : c.run plans orgs = [] ↔
    (c = singleDefaultPlan → (plans.filter (·.isDefault)).length = 1) ∧
      ∀ o ∈ orgs, ¬c.Offends plans o.subscription := by
  simp only [← finds_iff]
  cases c with
  | singleDefaultPlan => simp [run, finds, checkDefault_eq_nil_iff, defaultIds]
  | knownPlans => simp [run, finds, checkKnown_eq_nil_iff]
  | defaultPlanHasNoProvider => simp [run, finds, checkDefaultPlan_eq_nil_iff]
  | paidPlanHasProvider => simp [run, finds, checkPaidPlan_eq_nil_iff, and_assoc]

theorem Check.check_of_mem_run {v : Violation} (h : v ∈ c.run plans orgs) : v.check = c.name := by
  cases c with
  | singleDefaultPlan =>
    simp only [run, checkDefault] at h
    split at h
    · cases h
    · rw [List.mem_singleton.mp h]
  | knownPlans =>
    obtain ⟨id, -, rfl⟩ := List.mem_map.mp (List.mem_mergeSort.mp h)
    rfl
  | defaultPlanHasNoProvider =>
    simp only [run, checkDefaultPlan] at h
    split at h
    · cases h
    · rw [List.mem_singleton.mp h]
  | paidPlanHasProvider =>
    simp only [run, checkPaidPlan] at h
    split at h
    · cases h
    · rw [List.mem_singleton.mp h]

theorem Check.mem_all (c : Check) : c ∈ all := by cases c <;> decide

theorem Check.nodup_names : (all.map name).Nodup := by decide

theorem Check.ofName?_name (c : Check) : ofName? c.name = some c := by cases c <;> decide

theorem Check.ofName?_eq_none {name : String} (h : ∀ c : Check, c.name ≠ name) :
    ofName? name = none :=
  List.find?_eq_none.mpr fun c _ same => h c (eq_of_beq same)

/-! ## Groups -/

theorem Missing.perm (h : Missing plans orgs planIds) (h' : Missing plans orgs planIds') :
    planIds.Perm planIds' :=
  (List.perm_ext_iff_of_nodup h.nodup h'.nodup).mpr fun id =>
    (h.mem_iff id).trans (h'.mem_iff id).symm

/-- How many there are is written in decimal. -/
theorem count_eq_toString (n : Nat) : count n = toString n := Text.Numeral.text_eq_toString n

/-- A group is what is reported of the organizations on a plan. -/
theorem group_eq (orgs : List Organization) (id : Int) : group orgs id = danglingViolation id
    ((orgs.filter fun o => o.subscription.planId == id).map (·.address)) := by
  unfold group objection danglingViolation
  rw [count_eq_toString, Text.Numeral.text_eq_toString, List.length_map, String.append_assoc]
  rfl

/-- What is read behind the last separator is what was written behind it. -/
theorem eq_of_append_sep {sep : Char} {x y a b : List Char} (ha : sep ∉ a) (hb : sep ∉ b)
    (h : x ++ sep :: a = y ++ sep :: b) : a = b := by
  have parts := congrArg (Text.splitAll sep) h
  rw [Text.splitAll_append, Text.splitAll_append, Text.splitAll_of_not_mem ha,
    Text.splitAll_of_not_mem hb] at parts
  exact List.singleton_inj.mp (List.append_inj_right' parts rfl)

/-- A description ends in the id of the plan, so no two groups are described alike. -/
theorem group_description_injective
    (h : (group orgs id).description = (group orgs id').description) : id = id' := by
  have unbroken (n : Int) : ' ' ∉ Text.Numeral.decimal n := fun hmem =>
    (Text.Numeral.mem_decimal hmem).elim (by decide) (by decide)
  have parts (n : Int) : ∃ x, (group orgs n).description.toList =
      x ++ ' ' :: Text.Numeral.decimal n := by
    have words : " organization(s) reference missing plan ".toList =
      " organization(s) reference missing plan".toList ++ [' '] := by simp
    refine ⟨(toString (orgs.filter fun o => o.subscription.planId == n).length).toList ++
      " organization(s) reference missing plan".toList, ?_⟩
    simp only [group, objection, ← Text.Numeral.text_eq_toString, String.toList_append,
      Text.decimal, String.toList_ofList, words, List.append_assoc, List.singleton_append]
  obtain ⟨x, hx⟩ := parts id
  obtain ⟨y, hy⟩ := parts id'
  rw [h, hy] at hx
  exact Text.Numeral.decimal_injective (eq_of_append_sep (unbroken _) (unbroken _) hx.symm)

/-- Groups in the order of their descriptions, each before the next. -/
theorem sortGroups_ascending (nodup : planIds.Nodup) :
    (sortGroups (planIds.map (group orgs))).Pairwise fun a b => a.description < b.description := by
  have sorted : (sortGroups (planIds.map (group orgs))).Pairwise fun a b =>
      decide (a.description ≤ b.description) = true :=
    List.pairwise_mergeSort (by simpa using fun a b c => String.le_trans)
      (by simpa using fun a b : Violation => String.le_total a.description b.description) _
  have distinct : ((planIds.map (group orgs)).map (·.description)).Nodup := by
    rw [List.map_map]
    exact nodup.map fun _ _ => group_description_injective
  have distinct' := ((List.mergeSort_perm (planIds.map (group orgs))
    fun a b => a.description ≤ b.description).map (·.description)).nodup_iff.mpr distinct
  refine sorted.imp₂ ?_ (List.pairwise_map.mp distinct')
  intro a b le ne
  refine Std.not_le.mp fun ge => ne ?_
  exact String.le_antisymm (of_decide_eq_true le) ge

/-- In whichever order the groups come up, they are reported in one. -/
theorem sortGroups_perm (nodup : planIds.Nodup) (perm : planIds.Perm planIds') :
    sortGroups (planIds.map (group orgs)) = sortGroups (planIds'.map (group orgs)) := by
  have same : (sortGroups (planIds.map (group orgs))).Perm
      (sortGroups (planIds'.map (group orgs))) :=
    (List.mergeSort_perm _ _).trans ((perm.map _).trans (List.mergeSort_perm _ _).symm)
  refine same.eq_of_pairwise ?_ (sortGroups_ascending nodup)
    (sortGroups_ascending (perm.nodup_iff.mp nodup))
  intro a b _ _ lt gt
  exact absurd gt (String.lt_asymm lt)

theorem nodup_eraseDups {α : Type} [BEq α] [LawfulBEq α] (l : List α) : l.eraseDups.Nodup := by
  cases l with
  | nil => exact .nil
  | cons a l =>
    rw [List.eraseDups_cons]
    have shorter := List.length_filter_le (fun b => !b == a) l
    refine List.nodup_cons.mpr ⟨fun ha => ?_, nodup_eraseDups _⟩
    simpa using (List.mem_filter.mp (List.mem_eraseDups.mp ha)).2
termination_by l.length
decreasing_by exact Nat.lt_succ_of_le shorter

/-- The missing plans in the order in which organizations on them come up. -/
theorem missing_eraseDups :
    Missing plans orgs ((orgs.filter (dangles plans)).map (·.subscription.planId)).eraseDups where
  nodup := nodup_eraseDups _
  mem_iff id := by
    simp only [List.mem_eraseDups, List.mem_map, List.mem_filter, and_assoc]
    exact exists_congr fun o => and_congr_right fun _ =>
      and_congr_left fun _ => Check.finds_iff (c := .knownPlans)

/-- Organizations on missing plans are reported in groups, one for each plan. -/
theorem checkKnown_eq (missing : Missing plans orgs planIds) :
    checkKnown plans orgs = sortGroups (planIds.map (group orgs)) := by
  rw [sortGroups_perm missing.nodup (missing.perm missing_eraseDups)]
  unfold checkKnown sortGroups
  dsimp only
  congr 1
  refine List.map_congr_left fun id hid => ?_
  -- all organizations on a missing plan dangle
  obtain ⟨o, -, offends, rfl⟩ := (missing_eraseDups.mem_iff id).mp hid
  have dangling (o' : Organization) (same : o'.subscription.planId = o.subscription.planId) :
      dangles plans o' = true := by
    refine Check.finds_iff (c := .knownPlans) |>.mpr ?_
    simpa [Check.Offends, same] using offends
  rw [group_eq, List.filter_filter]
  congr 2
  refine List.filter_congr fun o' _ => ?_
  rw [Bool.and_eq_left_iff_imp]
  exact fun same => dangling o' (eq_of_beq same)

/-- Grouping by some keys brings together whatever has one of them. -/
theorem flatMap_filter_perm {α : Type} (key : α → Int) (l : List α) {ids : List Int}
    (nodup : ids.Nodup) :
    (ids.flatMap fun id => l.filter fun a => key a == id).Perm
      (l.filter fun a => ids.contains (key a)) := by
  induction ids with
  | nil => simp
  | cons id ids ih =>
    obtain ⟨fresh, nodup⟩ := List.nodup_cons.mp nodup
    have split := List.filter_append_perm (fun a => key a == id)
      (l.filter fun a => (id :: ids).contains (key a))
    rw [List.filter_filter, List.filter_filter] at split
    refine .trans ?_ split
    rw [List.flatMap_cons]
    refine .trans (List.Perm.append_left _ (ih nodup)) (.of_eq ?_)
    congr 1
    · refine List.filter_congr fun a _ => ?_
      cases h : key a == id <;> simp_all
    · refine List.filter_congr fun a _ => ?_
      by_cases h : key a = id
      · simp [h, fresh]
      · simp [h]

/-- A check names the organizations it finds, and each as often as it is there. -/
theorem Check.named_run_perm :
    (named (c.run plans orgs)).Perm ((orgs.filter (c.finds plans)).map (·.address)) := by
  cases c with
  | singleDefaultPlan =>
    simp only [run, checkDefault, finds]
    split <;> simp [named]
  | knownPlans =>
    have missing : Missing plans orgs _ := missing_eraseDups
    simp only [run, checkKnown_eq missing]
    refine ((List.mergeSort_perm _ _).flatMap_right _).trans ?_
    generalize ((orgs.filter (dangles plans)).map (·.subscription.planId)).eraseDups = planIds
      at missing ⊢
    have grouped := (flatMap_filter_perm (fun o : Organization => o.subscription.planId) orgs
      missing.nodup).map (·.address)
    rw [List.map_flatMap] at grouped
    rw [List.flatMap_map]
    refine grouped.trans (.of_eq ?_)
    congr 1
    refine List.filter_congr fun o ho => ?_
    rw [Bool.eq_iff_iff, List.contains_iff_mem, missing.mem_iff, finds_iff]
    constructor
    · rintro ⟨o', -, offends, same⟩
      simpa [Offends, same] using offends
    · exact fun offends => ⟨o, ho, offends, rfl⟩
  | defaultPlanHasNoProvider =>
    simp only [run, checkDefaultPlan, finds]
    split
    · simp_all [named]
    · simp [named]
  | paidPlanHasProvider =>
    simp only [run, checkPaidPlan, finds]
    split
    · simp_all [named]
    · simp [named]

/-- The catalog is reported when it has none or several default plans. -/
theorem checkDefault_eq : checkDefault plans =
    if (plans.filter (·.isDefault)).length = 1 then [] else [unsettledCatalog plans] := by
  unfold checkDefault unsettledCatalog ids defaultIds
  simp only [List.length_map, List.map_map, count_eq_toString]
  rfl

theorem checkDefaultPlan_eq : checkDefaultPlan plans orgs =
    together stillBilled (Check.defaultPlanHasNoProvider.offenders plans orgs) := by
  rw [Check.offenders_eq]
  unfold checkDefaultPlan together stillBilled objection
  simp only [count_eq_toString]
  rfl

theorem checkPaidPlan_eq : checkPaidPlan plans orgs =
    together neverBilled (Check.paidPlanHasProvider.offenders plans orgs) := by
  rw [Check.offenders_eq]
  unfold checkPaidPlan together neverBilled objection ids
  simp only [count_eq_toString, List.map_map]
  rfl

/-! ## Reports -/

theorem violations_eq (plans : List Plan) (orgs : List Organization) : violations plans orgs =
    Check.run plans orgs .singleDefaultPlan ++ Check.run plans orgs .knownPlans ++
      Check.run plans orgs .defaultPlanHasNoProvider ++
      Check.run plans orgs .paidPlanHasProvider := by
  simp [violations, Check.all]

/-- As many checks fail as find anything. -/
theorem failed_eq : ((violations plans orgs).map (·.check)).eraseDups.length =
    (Check.all.filter fun c => !(c.run plans orgs).isEmpty).length := by
  have failing : ((Check.all.filter fun c => !(c.run plans orgs).isEmpty).map Check.name).Nodup :=
    Check.nodup_names.sublist (List.filter_sublist.map _)
  rw [← List.length_map Check.name]
  refine List.Perm.length_eq ((List.perm_ext_iff_of_nodup (nodup_eraseDups _) failing).mpr ?_)
  intro name
  simp only [List.mem_eraseDups, List.mem_map, List.mem_filter, violations, List.mem_flatMap]
  constructor
  · rintro ⟨v, ⟨c, hc, hv⟩, rfl⟩
    refine ⟨c, ⟨hc, ?_⟩, (Check.check_of_mem_run hv).symm⟩
    cases found : c.run plans orgs with
    | nil => simp [found] at hv
    | cons => rfl
  · rintro ⟨c, ⟨hc, some⟩, rfl⟩
    cases found : c.run plans orgs with
    | nil => simp [found] at some
    | cons v rest =>
      have hv : v ∈ c.run plans orgs := found ▸ List.mem_cons_self
      exact ⟨v, ⟨c, hc, hv⟩, Check.check_of_mem_run hv⟩

theorem violations_eq_nil_iff_offends : violations plans orgs = [] ↔
    (plans.filter (·.isDefault)).length = 1 ∧
      ∀ o ∈ orgs, ∀ c : Check, ¬c.Offends plans o.subscription := by
  unfold violations
  simp only [List.flatMap_eq_nil_iff, Check.mem_all, true_implies, Check.run_eq_nil_iff]
  constructor
  · intro h
    exact ⟨(h .singleDefaultPlan).1 rfl, fun o ho c => (h c).2 o ho⟩
  · rintro ⟨catalog, records⟩ c
    exact ⟨fun _ => catalog, fun o ho => records o ho c⟩

/-- The summary of all checks is exact when no two organizations have one address. -/
theorem summarize_exact (checkedAt : Calendar.DateTime) (nodup : (orgs.map (·.address)).Nodup) :
    Exact plans orgs (Check.run plans orgs) (summarize checkedAt plans orgs) where
  violations := violations_eq plans orgs
  healthy := List.isEmpty_iff.trans violations_eq_nil_iff_offends
  ofCheck _ _ := Check.check_of_mem_run
  satisfied _ := Check.run_eq_nil_iff
  once c := by
    rw [Check.named_run_perm.nodup_iff]
    exact nodup.sublist (List.filter_sublist.map _)
  named c a := by
    rw [Check.named_run_perm.mem_iff]
    simp only [List.mem_map, List.mem_filter, Check.finds_iff, and_assoc]
    exact exists_congr fun o => and_congr_right fun _ => and_comm
  catalog := checkDefault_eq
  missing := ⟨_, missing_eraseDups⟩
  groups _ := checkKnown_eq
  ascending := by
    have missing : Missing plans orgs _ := missing_eraseDups
    simp only [Check.run, checkKnown_eq missing]
    exact sortGroups_ascending missing.nodup
  stillBilled := checkDefaultPlan_eq
  neverBilled := checkPaidPlan_eq
  checksRun := rfl
  checksFailed := failed_eq
  checksPassed := by
    have most : ((violations plans orgs).map (·.check)).eraseDups.length ≤ Check.all.length := by
      rw [failed_eq]
      exact List.length_filter_le _ _
    exact Nat.sub_add_cancel most

end Findings

/-! ## Loading what is checked -/

section Loading
variable {α : Type} {mayFail : Prop} {s t : Scene} {r : Except Failure α}

/-- What is checked are the plans and organizations of the store, if it answers. -/
theorem gives_bind_load {f : List Plan × List Organization → Action α}
    (h : (load >>= f).Gives mayFail s r t) :
    (f (s.store.plans.values, s.store.organizations.values)).Gives mayFail s r t ∨
      (mayFail ∧ ∃ failure, r = .error failure) := by
  unfold load at h
  simp only [bind_assoc, pure_bind] at h
  rcases Action.gives_bind_read rfl h with h | ⟨fails, down, -⟩
  · rcases Action.gives_bind_read rfl h with h | ⟨fails, down, -⟩
    · exact Or.inl h
    · exact Or.inr ⟨fails, _, down⟩
  · exact Or.inr ⟨fails, _, down⟩

end Loading

end Health

namespace World
open Health
variable {α : Type} {w : World}

/-- Nothing is loaded without the database. -/
theorem run_load_of_poolClosed (pool : w.poolClosed = true)
    (f : List Plan × List Organization → Action α) :
    ∃ failure, (w.run (load >>= f)).1 = .error failure := by
  unfold load
  simp only [run_bind, run_store_of_poolClosed pool]
  exact ⟨_, rfl⟩

/-- What is computed from the plans and organizations is computed from those of the store, if
anything is; and it is, when the store answers. -/
theorem run_load (w : World) (f : List Plan × List Organization → α) :
    (∀ a, (w.run (load >>= fun x => pure (f x))).1 = .ok a →
        a = f (w.store.plans.values, w.store.organizations.values)) ∧
      (w.Open False → (w.run (load >>= fun x => pure (f x))).1 =
        .ok (f (w.store.plans.values, w.store.organizations.values))) := by
  constructor
  · intro a loaded
    cases pool : w.poolClosed with
    | true =>
      obtain ⟨failure, down⟩ := run_load_of_poolClosed pool fun x => pure (f x)
      rw [down] at loaded
      cases loaded
    | false =>
      have gives := run_gives (load >>= fun x => pure (f x)) (open_of_pool pool)
      rw [loaded] at gives
      rcases gives_bind_load gives with ⟨same, -⟩ | ⟨-, failure, down⟩
      · exact Except.ok.inj same
      · cases down
  · intro answers
    rcases gives_bind_load (run_gives (load >>= fun x => pure (f x)) answers) with
      ⟨same, -⟩ | ⟨fails, -⟩
    · exact same
    · exact fails.elim

theorem inspectNamed_name (c : Check) :
    inspectNamed c.name = load >>= fun x => pure (c.run x.1 x.2) := by
  unfold inspectNamed
  rw [Check.ofName?_name]

theorem run_inspect_eq (w : World) :
    w.run inspect = w.run (load >>= fun x => pure (summarize w.now x.1 x.2)) := rfl

/-- Whenever a report is made it is exact about the store, and lists what the checks find when
they are run one by one. It is made when the store answers. -/
theorem report_exact (sound : w.store.Sound) : ∃ found : Check → List Violation,
    (∀ report, (w.run inspect).1 = .ok report →
      Exact w.store.plans.values w.store.organizations.values found report) ∧
    (∀ c l, (w.run (inspectNamed c.name)).1 = .ok l → l = found c) ∧
    (w.Open False → (∃ report, (w.run inspect).1 = .ok report) ∧
      ∀ c, (w.run (inspectNamed c.name)).1 = .ok (found c)) ∧
    ∀ name, (∀ c : Check, c.name ≠ name) → w.run (inspectNamed name) = (.ok [], w) := by
  refine ⟨Check.run w.store.plans.values w.store.organizations.values, ?_, ?_, ?_, ?_⟩
  · intro report made
    rw [run_inspect_eq] at made
    rw [(run_load w fun x => summarize w.now x.1 x.2).1 report made]
    exact summarize_exact w.now sound.nodup_addresses
  · intro c l made
    rw [inspectNamed_name] at made
    exact (run_load w fun x => c.run x.1 x.2).1 l made
  · intro answers
    refine ⟨⟨_, (run_load w fun x => summarize w.now x.1 x.2).2 answers⟩, fun c => ?_⟩
    rw [inspectNamed_name]
    exact (run_load w fun x => c.run x.1 x.2).2 answers
  · intro name unknown
    unfold inspectNamed
    rw [Check.ofName?_eq_none unknown]
    rfl

/-- One organization is on no plan, one on a missing plan, and two are on another missing one. -/
theorem stranded_organization_reported :
    let on (address : String) (planId : Int) : Organization :=
      ⟨address, { Subscription.blank with planId }, default⟩
    let w := World.sample.withStore (((Store.sample.setOrganization (on "0xa2" 7)).setOrganization
      (on "0xa3" (-12))).setOrganization (on "0xa4" 7))
    let check := "organizations_reference_known_plans"
    w.store.Sound ∧ (∃ report, (w.run inspect).1 = .ok report ∧ report.healthy = false) ∧
      (w.run (inspectNamed check)).1 = .ok [
        ⟨check, ["0xa3"], "1 organization(s) reference missing plan -12",
          .object [("plan_id", .int (-12))], .high⟩,
        ⟨check, ["0xa2", "0xa4"], "2 organization(s) reference missing plan 7",
          .object [("plan_id", .int 7)], .high⟩] := by
  intro on w check
  have sound : w.store.Sound :=
    ((Store.sample_sound.setOrganization _).setOrganization _).setOrganization _
  obtain ⟨found, exact, -, answers, -⟩ := report_exact sound
  obtain ⟨⟨report, made⟩, checked⟩ := answers ⟨rfl, Or.inr rfl⟩
  replace exact := exact report made
  have stranded : ∀ id ∈ [-12, 7], ∃ o ∈ w.store.organizations.values,
      Check.knownPlans.Offends w.store.plans.values o.subscription ∧
        o.subscription.planId = id := by decide +kernel
  have others : ∀ o ∈ w.store.organizations.values,
      Check.knownPlans.Offends w.store.plans.values o.subscription →
        o.subscription.planId ∈ [-12, 7] := by decide +kernel
  have missing : Missing w.store.plans.values w.store.organizations.values [-12, 7] := by
    refine ⟨by decide, fun id => ⟨stranded id, ?_⟩⟩
    rintro ⟨o, ho, offends, rfl⟩
    exact others o ho offends
  have west : (w.store.organizations.values.filter fun o => o.subscription.planId == -12) =
      [on "0xa3" (-12)] := by decide +kernel
  have east : (w.store.organizations.values.filter fun o => o.subscription.planId == 7) =
      [on "0xa2" 7, on "0xa4" 7] := by decide +kernel
  have one : toString 1 ++ (" organization(s) reference missing plan " ++ toString (-12 : Int)) =
      "1 organization(s) reference missing plan -12" := by decide +kernel
  have two : toString 2 ++ (" organization(s) reference missing plan " ++ toString (7 : Int)) =
      "2 organization(s) reference missing plan 7" := by decide +kernel
  refine ⟨sound, ⟨report, made, ?_⟩, (checked .knownPlans).trans (congrArg _ ?_)⟩
  · rw [← Bool.not_eq_true, exact.healthy]
    obtain ⟨o, ho, offends, -⟩ := stranded 7 (by decide)
    exact fun ⟨_, sane⟩ => sane o ho .knownPlans offends
  · rw [exact.groups _ missing, ← one, ← two, List.map_cons, List.map_singleton]
    unfold group
    rw [west, east]
    exact List.mergeSort_of_pairwise (by decide +kernel)

end World

end TenantBilling
