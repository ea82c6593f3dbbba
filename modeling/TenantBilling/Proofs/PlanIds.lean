import TenantBilling.Proofs.StoreInvariant

/-! The ids of plans. No plan is ever removed, so plans stand under exactly the ids that were
given. The counter is at least every one of them, whoever chose it: a plan without an id comes
beside all the others, and a plan that brings its id comes over the plan of that id alone. -/

namespace TenantBilling.Store

/-- The store after a number of calls. -/
def after (s : Store) (calls : List StoreCall) : Store :=
  calls.foldl (fun s c => (s.answer c).2) s

/-- The id that a call gives to a plan. -/
def idGiven? (s : Store) : StoreCall → Option Int
  | .setPlan plan => some (s.setPlan plan).2
  | _ => none

/-- The ids that a number of calls give to plans, in their order. -/
def idsGiven (s : Store) : List StoreCall → List Int
  | [] => []
  | c :: calls => (s.idGiven? c).toList ++ (s.answer c).2.idsGiven calls

variable {s : Store}

/-! ## One call -/

theorem id_setPlan (s : Store) (plan : Plan) :
    (s.setPlan plan).2 = if plan.id = 0 then s.lastPlanId + 1 else plan.id := by
  unfold setPlan
  split <;> rfl

theorem get?_setPlan (s : Store) (plan : Plan) (id : Int) :
    (s.setPlan plan).1.plans.get? id = if id = (s.setPlan plan).2 then
      some { plan with id := (s.setPlan plan).2 } else s.plans.get? id := by
  have stored : (s.setPlan plan).1.plans =
      s.plans.insert (s.setPlan plan).2 { plan with id := (s.setPlan plan).2 } := by
    unfold setPlan
    split <;> rfl
  rw [stored, Table.get?_insert]

/-- No other call touches the plans. -/
theorem plans_answer {c : StoreCall} (h : s.idGiven? c = none) :
    (s.answer c).2.plans = s.plans := by
  cases c with
  | setPlan plan => cases h
  | setSubscription address subscription =>
    simp only [answer, setSubscription]
    cases s.organizations.get? address <;> rfl
  | openSnapshot candidate =>
    simp only [answer, openSnapshot]
    cases s.snapshots.get? candidate.key <;> rfl
  | _ => rfl

/-- After a call a plan stands where one stood before and under the id that was given. -/
theorem exists_plan_answer (s : Store) (c : StoreCall) (id : Int) :
    (∃ p, (s.answer c).2.plans.get? id = some p) ↔
      (∃ p, s.plans.get? id = some p) ∨ id ∈ (s.idGiven? c).toList := by
  cases given : s.idGiven? c with
  | none =>
    rw [plans_answer given]
    simp
  | some j =>
    cases c with
    | setPlan plan =>
      obtain rfl : (s.setPlan plan).2 = j := Option.some.inj given
      change (∃ p, (s.setPlan plan).1.plans.get? id = some p) ↔ _
      rw [get?_setPlan]
      split <;> rename_i same <;> simp [same]
    | _ => cases given

/-! ## Runs -/

theorem Sound.after (h : s.Sound) (calls : List StoreCall) : (s.after calls).Sound := by
  induction calls generalizing s with
  | nil => exact h
  | cons c calls ih => exact ih (h.answer c)

theorem exists_plan_after (s : Store) (calls : List StoreCall) (id : Int) :
    (∃ p, (s.after calls).plans.get? id = some p) ↔
      (∃ p, s.plans.get? id = some p) ∨ id ∈ s.idsGiven calls := by
  induction calls generalizing s with
  | nil => simp [after, idsGiven]
  | cons c calls ih =>
    have rest := ih (s.answer c).2
    rw [exists_plan_answer, or_assoc, ← List.mem_append] at rest
    exact rest

/-- The plans are listed by their ids. -/
theorem Sound.ids_ascend (h : s.Sound) : (s.plans.values.map (·.id)).Pairwise (· < ·) := by
  rw [s.plans.map_values_eq_keys h.plan]
  exact List.pairwise_map.mpr (s.plans.ascending.imp of_decide_eq_true)

theorem Sound.mem_plans_iff (h : s.Sound) (p : Plan) :
    p ∈ s.plans.values ↔ s.plans.get? p.id = some p := by
  rw [Table.mem_values_iff]
  constructor
  · rintro ⟨id, stored⟩
    rwa [h.plan id p stored]
  · exact fun stored => ⟨p.id, stored⟩

/-- After any calls to an empty store, plans stand under exactly the ids that were given, each
under its own, which is not zero. A plan without an id is then given a positive one that is
greater than all of these, and stands beside the other plans; one with an id keeps it and takes
the place of the plan of that id alone; and the plans are listed once each, by their ids. -/
theorem plan_ids_never_collide (calls : List StoreCall) :
    let s := (default : Store).after calls
    let given := (default : Store).idsGiven calls
    (∀ id, (∃ p, s.plans.get? id = some p) ↔ id ∈ given) ∧
      (∀ id p, s.plans.get? id = some p → p.id = id ∧ id ≠ 0) ∧
      (∀ plan, plan.id = 0 → ∃ id, (s.answer (.setPlan plan)).1 = .ok id ∧
        1 ≤ id ∧ (∀ earlier ∈ given, earlier < id) ∧ s.plans.get? id = none ∧
        ∀ j, (s.answer (.setPlan plan)).2.plans.get? j =
          if j = id then some { plan with id } else s.plans.get? j) ∧
      (∀ plan, plan.id ≠ 0 → (s.answer (.setPlan plan)).1 = .ok plan.id ∧
        ∀ j, (s.answer (.setPlan plan)).2.plans.get? j =
          if j = plan.id then some plan else s.plans.get? j) ∧
      ∃ plans, (s.answer .plans).1 = .ok plans ∧ (plans.map (·.id)).Pairwise (· < ·) ∧
        ∀ p, p ∈ plans ↔ s.plans.get? p.id = some p := by
  intro s given
  have sound : s.Sound := Sound.initial.after calls
  have stored (id : Int) : (∃ p, s.plans.get? id = some p) ↔ id ∈ given := by
    have all := exists_plan_after default calls id
    have nothing : ¬∃ p, (default : Store).plans.get? id = some p := by
      rintro ⟨p, h⟩
      cases h
    rwa [or_iff_right nothing] at all
  refine ⟨stored, fun id p h => ⟨sound.plan id p h, (sound.planId id p h).1⟩, ?_, ?_,
    s.plans.values, rfl, sound.ids_ascend, sound.mem_plans_iff⟩
  · intro plan noId
    have next : (s.setPlan plan).2 = s.lastPlanId + 1 := by rw [id_setPlan, if_pos noId]
    have last := sound.lastPlanId
    have below : ∀ earlier ∈ given, earlier < (s.setPlan plan).2 := by
      intro earlier mem
      obtain ⟨p, h⟩ := (stored earlier).mpr mem
      have bound := (sound.planId earlier p h).2
      omega
    have positive : 1 ≤ (s.setPlan plan).2 := by omega
    refine ⟨(s.setPlan plan).2, rfl, positive, below, ?_, get?_setPlan s plan⟩
    refine Option.eq_none_iff_forall_ne_some.mpr fun p h => ?_
    exact Int.lt_irrefl _ (below _ ((stored _).mp ⟨p, h⟩))
  · intro plan hasId
    have kept : (s.setPlan plan).2 = plan.id := by rw [id_setPlan, if_neg hasId]
    refine ⟨congrArg _ kept, fun j => ?_⟩
    refine (get?_setPlan s plan j).trans ?_
    rw [kept]

/-- Behind a plan that chose a high id and one that chose a negative one, the next two ids are the
ones behind the high id. -/
theorem next_id_behind_chosen :
    let chosen (id : Int) : StoreCall := .setPlan { (default : Plan) with id }
    let calls := [chosen 7, chosen (-5), .setPlan default]
    let s := (default : Store).after calls
    (default : Store).idsGiven calls = [7, -5, 8] ∧ (default : Plan).id = 0 ∧
      ∃ id, (s.answer (.setPlan default)).1 = .ok id ∧ 8 < id ∧ s.plans.get? id = none := by
  intro chosen calls s
  have given : (default : Store).idsGiven calls = [7, -5, 8] := by decide
  obtain ⟨-, -, assigned, -⟩ := plan_ids_never_collide calls
  obtain ⟨id, answered, -, greater, free, -⟩ := assigned default rfl
  refine ⟨given, rfl, id, answered, greater 8 ?_, free⟩
  rw [given]
  decide

end TenantBilling.Store
