import TenantBilling.Proofs.RuleBook

/-! Upgrades. A plan with higher limits and more features, a higher role, less used and a smaller
request: none of them takes a permission away. Each eases the demands of a request, one by one, so
that a demand that was met is met still. -/

namespace TenantBilling

/-! ## More to offer, less to ask -/

/-- Limits none of which is lower. -/
structure PlanLimits.AtMost (a b : PlanLimits) : Prop where
  processes : a.maxProcesses ≤ b.maxProcesses
  census : a.maxCensus ≤ b.maxCensus
  drafts : a.maxDrafts ≤ b.maxDrafts
  sentEmails : a.maxSentEmails ≤ b.maxSentEmails
  sentSms : a.maxSentSms ≤ b.maxSentSms
  durationDays : a.maxDurationDays ≤ b.maxDurationDays
  subOrgs : a.maxSubOrgs ≤ b.maxSubOrgs
  users : a.maxUsers ≤ b.maxUsers

structure Counters.AtMost (a b : Counters) : Prop where
  processes : a.processes ≤ b.processes
  sentEmails : a.sentEmails ≤ b.sentEmails
  sentSms : a.sentSms ≤ b.sentSms

/-- What a decision depends on, changed in favour of the request. -/
structure DecisionInput.Upgraded (i j : DecisionInput) : Prop where
  subscription : j.subscription = i.subscription
  role : i.role.rank ≤ j.role.rank
  limits : i.plan.limits.AtMost j.plan.limits
  features : ∀ f, i.plan.features.includes f = true → j.plan.features.includes f = true
  usage : j.usage.AtMost i.usage
  testCensusAllowance : i.testCensusAllowance ≤ j.testCensusAllowance

/-- A process of another shape that asks for no more. -/
structure ProcessShape.AtMost (a b : ProcessShape) : Prop where
  censusSize : a.censusSize ≤ b.censusSize
  durationDays : a.durationDays ≤ b.durationDays
  anonymous : a.anonymous = true → b.anonymous = true
  weighted : a.weighted = true → b.weighted = true
  voteOverwrite : a.voteOverwrite = true → b.voteOverwrite = true

/-- A transaction of the same kind that asks for no more. -/
inductive TxRequest.AtMost : TxRequest → TxRequest → Prop where
  | newProcess {a b : ProcessShape} (shape : a.AtMost b) : AtMost (.newProcess a) (.newProcess b)
  | setProcessCensus {m n : Int} (census : m ≤ n) :
    AtMost (.setProcessCensus m) (.setProcessCensus n)
  | setProcessDuration {m n : Int} (duration : m ≤ n) :
    AtMost (.setProcessDuration m) (.setProcessDuration n)
  | setProcessStatus : AtMost .setProcessStatus .setProcessStatus
  | addDelegate : AtMost .addDelegate .addDelegate
  | delDelegate : AtMost .delDelegate .delDelegate

/-- An action of the same kind that asks for no more. -/
inductive QuotaAction.AtMost : QuotaAction → QuotaAction → Prop where
  | createDraft : AtMost .createDraft .createDraft
  | inviteUser : AtMost .inviteUser .inviteUser
  | deleteUser : AtMost .deleteUser .deleteUser
  | createSubOrg : AtMost .createSubOrg .createSubOrg
  | publishCensus {m n : Int} {email sms email' sms' : Bool} (census : m ≤ n)
    (emails : email = true → email' = true) (messages : sms = true → sms' = true) :
    AtMost (.publishCensus m email sms) (.publishCensus n email' sms')

/-! ## Demands -/

/-- A demand of the same kind that is no harder to meet. -/
inductive Demand.AtMost : Demand → Demand → Prop where
  | refl (d : Demand) : AtMost d d
  | census {m n : Int} (h : m ≤ n) : AtMost (.census m) (.census n)
  | process {m n : Int} (h : m ≤ n) : AtMost (.process m) (.process n)
  | duration {m n : Int} (h : m ≤ n) : AtMost (.duration m) (.duration n)
  | draft {m n : Int} (h : m ≤ n) : AtMost (.draft m) (.draft n)
  | user {m n : Int} (h : m ≤ n) : AtMost (.user m) (.user n)
  | subOrg {m n : Int} (h : m ≤ n) : AtMost (.subOrg m) (.subOrg n)
  | allowance {m n : Int} (resource : Allowance) (h : m ≤ n) :
    AtMost (.allowance resource m) (.allowance resource n)

/-- Demands each of which is no harder to meet than one of some others. -/
def Demand.Covered (l m : List Demand) : Prop := ∀ d ∈ l, ∃ e ∈ m, d.AtMost e

section Upgrades
variable {i j : DecisionInput} {d e : Demand} {l l' m m' : List Demand}

theorem DecisionInput.Upgraded.remaining (up : i.Upgraded j) (resource : Allowance) :
    i.remaining resource ≤ j.remaining resource := by
  have emails := up.limits.sentEmails
  have sms := up.limits.sentSms
  have usedEmails := up.usage.sentEmails
  have usedSms := up.usage.sentSms
  cases resource with
  | emails =>
    simp only [DecisionInput.remaining]
    omega
  | sms =>
    simp only [DecisionInput.remaining]
    omega

namespace Demand

/-- What was met before an upgrade is met after it. -/
theorem Met.upgraded (up : i.Upgraded j) (h : d.Met i) : d.Met j := by
  have limits := up.limits
  cases d with
  | plan => exact fun none => h (up.subscription ▸ none)
  | activeSubscription =>
    change j.subscription.active = true
    rw [up.subscription]
    exact h
  | role lowest action => exact Nat.le_trans h up.role
  | census size => exact Int.le_trans h limits.census
  | process censusSize =>
    rcases h with room | small
    · have used := up.usage.processes
      exact Or.inl (Int.lt_of_le_of_lt used (Int.lt_of_lt_of_le room limits.processes))
    · exact Or.inr (Int.le_trans small up.testCensusAllowance)
  | feature f => exact up.features f h
  | duration days => exact Int.le_trans h limits.durationDays
  | draft count => exact Int.lt_of_lt_of_le h limits.drafts
  | user count => exact Int.lt_of_lt_of_le h limits.users
  | subOrg count => exact Int.lt_of_lt_of_le h limits.subOrgs
  | allowance resource messages => exact Int.le_trans h (up.remaining resource)

theorem AtMost.met (le : d.AtMost e) (h : e.Met i) : d.Met i := by
  cases le with
  | refl => exact h
  | process le => exact h.imp id (Int.le_trans le)
  | census le => exact Int.le_trans le h
  | duration le => exact Int.le_trans le h
  | draft le => exact Int.lt_of_le_of_lt le h
  | user le => exact Int.lt_of_le_of_lt le h
  | subOrg le => exact Int.lt_of_le_of_lt le h
  | allowance resource le => exact Int.le_trans le h

theorem covered_refl (l : List Demand) : Covered l l := fun d hd => ⟨d, hd, .refl d⟩

theorem covered_cons (h : d.AtMost e) (hl : Covered l m) : Covered (d :: l) (e :: m) := by
  intro x hx
  rcases List.mem_cons.mp hx with rfl | hx
  · exact ⟨e, List.mem_cons_self, h⟩
  · obtain ⟨y, hy, le⟩ := hl x hx
    exact ⟨y, List.mem_cons_of_mem _ hy, le⟩

theorem covered_append (h : Covered l m) (h' : Covered l' m') :
    Covered (l ++ l') (m ++ m') := by
  intro x hx
  rcases List.mem_append.mp hx with hx | hx
  · obtain ⟨y, hy, le⟩ := h x hx
    exact ⟨y, List.mem_append_left _ hy, le⟩
  · obtain ⟨y, hy, le⟩ := h' x hx
    exact ⟨y, List.mem_append_right _ hy, le⟩

theorem covered_when {asked asked' : Bool} (h : asked = true → asked' = true)
    (hl : Covered l m) : Covered (when asked l) (when asked' m) := by
  cases asked with
  | false => exact nofun
  | true =>
    rw [h rfl]
    exact hl

/-- Demands that are covered by what was met before an upgrade are met after it. -/
theorem Covered.met (up : i.Upgraded j) (h : Covered l m) (met : ∀ e ∈ m, e.Met i) :
    ∀ d ∈ l, d.Met j := by
  intro d hd
  obtain ⟨e, he, le⟩ := h d hd
  exact le.met ((met e he).upgraded up)

end Demand

open Demand

theorem TxRequest.AtMost.covered {tx tx' : TxRequest} (le : tx.AtMost tx') :
    Covered tx.demands tx'.demands := by
  cases le with
  | newProcess shape =>
    refine covered_append (covered_refl _) ?_
    refine covered_cons (.census shape.censusSize) ?_
    refine covered_cons (.process shape.censusSize) ?_
    refine covered_append (covered_when shape.anonymous (covered_refl _)) ?_
    refine covered_append (covered_when shape.weighted (covered_refl _)) ?_
    refine covered_append (covered_when shape.voteOverwrite (covered_refl _)) ?_
    exact covered_cons (.duration shape.durationDays) (covered_refl _)
  | setProcessCensus h =>
    exact covered_append (covered_refl _) (covered_cons (.census h) (covered_refl _))
  | setProcessDuration h =>
    exact covered_append (covered_refl _) (covered_cons (.duration h) (covered_refl _))
  | setProcessStatus => exact covered_refl _
  | addDelegate => exact covered_refl _
  | delDelegate => exact covered_refl _

theorem QuotaAction.AtMost.covered {action action' : QuotaAction} {count count' : Int}
    (le : action.AtMost action') (fewer : count ≤ count') :
    Covered (action.demands count) (action'.demands count') := by
  cases le with
  | createDraft =>
    exact covered_append (covered_refl _) (covered_cons (.draft fewer) (covered_refl _))
  | inviteUser =>
    exact covered_append (covered_refl _) (covered_cons (.user fewer) (covered_refl _))
  | deleteUser => exact covered_refl _
  | createSubOrg =>
    exact covered_append (covered_refl _) (covered_cons (.subOrg fewer) (covered_refl _))
  | publishCensus census emails messages =>
    refine covered_append (covered_refl _) ?_
    refine covered_cons (.census census) ?_
    refine covered_append (covered_when emails ?_) (covered_when messages ?_)
    · exact covered_cons (.refl _) (covered_cons (.allowance .emails census) (covered_refl _))
    · exact covered_cons (.refl _) (covered_cons (.allowance .sms census) (covered_refl _))

/-- What is allowed stays allowed after an upgrade, and so does any request of the same kind that
asks for no more. -/
theorem upgrade_keeps_permissions (up : i.Upgraded j) :
    (∀ tx tx', tx'.AtMost tx → evaluateTx i tx = .allowed → evaluateTx j tx' = .allowed) ∧
      ∀ action action' count count', action'.AtMost action → count' ≤ count →
        evaluateQuota i action count = .allowed → evaluateQuota j action' count' = .allowed := by
  constructor
  · intro tx tx' le allowed
    rw [evaluateTx_eq_allowed_iff] at allowed ⊢
    exact le.covered.met up allowed
  · intro action action' count count' le fewer allowed
    rw [evaluateQuota_eq_allowed_iff] at allowed ⊢
    exact (le.covered fewer).met up allowed

/-- A manager of a plan with room for a small census, after an upgrade to another plan. -/
theorem smaller_census_after_upgrade :
    let small : DecisionInput := ⟨.manager, { Subscription.blank with planId := 2, active := true },
      { (default : Plan) with limits := { PlanLimits.none with maxCensus := 100 } }, .zero, 10⟩
    let large : DecisionInput := ⟨.admin, { Subscription.blank with planId := 2, active := true },
      { (default : Plan) with limits := { PlanLimits.none with maxCensus := 500 } }, .zero, 10⟩
    evaluateTx small (.setProcessCensus 100) = .allowed ∧ small.Upgraded large ∧
      evaluateTx large (.setProcessCensus 80) = .allowed := by
  intro small large
  have allowed : evaluateTx small (.setProcessCensus 100) = .allowed := by decide
  have up : small.Upgraded large := by
    refine ⟨rfl, by decide, ?_, fun _ => id, ?_, by decide⟩
    · constructor <;> decide
    · constructor <;> decide
  refine ⟨allowed, up, ?_⟩
  exact (upgrade_keeps_permissions up).1 _ _ (.setProcessCensus (by decide)) allowed

end Upgrades

end TenantBilling
