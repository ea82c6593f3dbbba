import TenantBilling.Entitlement.Decision

/-! The rules that decisions follow, written down as what each request demands of an organization
and its plan, in the order in which the demands are looked at. A request is allowed when all its
demands are met; otherwise the first that is not is the reason to deny it, and the reason tells the
role, the feature or the numbers that are in the way. -/

namespace TenantBilling

/-- What may be demanded before a request is allowed. -/
inductive Demand where
  | plan
  | activeSubscription
  /-- A role no lower than this one, for an action. -/
  | role (lowest : Role) (action : String)
  | census (size : Int)
  /-- Room for one more process, with a census of some size. -/
  | process (censusSize : Int)
  | feature (feature : Feature)
  | duration (days : Int)
  /-- Room for one more draft, member or sub-organization than there are. -/
  | draft (count : Int)
  | user (count : Int)
  | subOrg (count : Int)
  | allowance (resource : Allowance) (messages : Int)

/-- Admins rank over managers, and managers over viewers. -/
def Role.rank : Role → Nat
  | viewer => 0
  | manager => 1
  | admin => 2

def PlanFeatures.includes (f : PlanFeatures) : Feature → Bool
  | .anonymous => f.anonymous
  | .weighted => f.weighted
  | .voteOverwrite => f.overwrite
  | .twoFactorEmail => f.twoFactorEmail
  | .twoFactorSms => f.twoFactorSms

/-- What is left of an allowance, which is never less than nothing. -/
def DecisionInput.remaining (i : DecisionInput) : Allowance → Int
  | .emails => max (i.plan.limits.maxSentEmails - i.usage.sentEmails) 0
  | .sms => max (i.plan.limits.maxSentSms - i.usage.sentSms) 0

namespace Demand

def Met (i : DecisionInput) : Demand → Prop
  | plan => i.subscription.planId ≠ 0
  | activeSubscription => i.subscription.active = true
  | role lowest _ => lowest.rank ≤ i.role.rank
  | census size => size ≤ i.plan.limits.maxCensus
  | process censusSize =>
    i.usage.processes < i.plan.limits.maxProcesses ∨ censusSize ≤ i.testCensusAllowance
  | feature f => i.plan.features.includes f = true
  | duration days => days ≤ i.plan.limits.maxDurationDays
  | draft count => count < i.plan.limits.maxDrafts
  | user count => count < i.plan.limits.maxUsers
  | subOrg count => count < i.plan.limits.maxSubOrgs
  | allowance resource messages => messages ≤ i.remaining resource

/-- Why a request is denied that does not meet a demand. -/
def denial (i : DecisionInput) : Demand → DenialReason
  | plan => .noSubscription
  | activeSubscription => .subscriptionInactive
  | role _ action => .roleNotAllowed i.role action
  | census size => .censusTooLarge size i.plan.limits.maxCensus
  | process _ => .processLimitReached i.usage.processes i.plan.limits.maxProcesses
  | feature f => .featureNotEnabled f
  | duration days => .durationTooLong days i.plan.limits.maxDurationDays
  | draft count => .draftLimitReached count i.plan.limits.maxDrafts
  | user count => .userLimitReached count i.plan.limits.maxUsers
  | subOrg count => .subOrgLimitReached count i.plan.limits.maxSubOrgs
  | allowance resource messages =>
    .insufficientAllowance resource (i.remaining resource) messages

/-- Demands that are only made when something is asked for. -/
def when (asked : Bool) (demands : List Demand) : List Demand := if asked then demands else []

end Demand

/-! ## What requests demand -/

namespace TxRequest

def lowestRole : TxRequest → Role
  | newProcess _ => .admin
  | setProcessCensus _ => .manager
  | setProcessDuration _ => .manager
  | setProcessStatus => .manager
  | addDelegate => .admin
  | delDelegate => .admin

/-- What is demanded of the plan. -/
def planDemands : TxRequest → List Demand
  | newProcess shape =>
    .census shape.censusSize :: .process shape.censusSize ::
      (Demand.when shape.anonymous [.feature .anonymous] ++
        (Demand.when shape.weighted [.feature .weighted] ++
          (Demand.when shape.voteOverwrite [.feature .voteOverwrite] ++
            [.duration shape.durationDays])))
  | setProcessCensus censusSize => [.census censusSize]
  | setProcessDuration durationDays => [.duration durationDays]
  | setProcessStatus => []
  | addDelegate => []
  | delDelegate => []

def demands (tx : TxRequest) : List Demand :=
  [.plan, .activeSubscription, .role tx.lowestRole tx.name] ++ tx.planDemands

end TxRequest

namespace QuotaAction

def lowestRole : QuotaAction → Role
  | createDraft => .manager
  | inviteUser => .admin
  | deleteUser => .admin
  | createSubOrg => .admin
  | publishCensus _ _ _ => .manager

/-- What is demanded of the plan, when there are so many already. -/
def planDemands (count : Int) : QuotaAction → List Demand
  | createDraft => [.draft count]
  | inviteUser => [.user count]
  | deleteUser => []
  | createSubOrg => [.subOrg count]
  | publishCensus censusSize email sms =>
    .census censusSize ::
      (Demand.when email [.feature .twoFactorEmail, .allowance .emails censusSize] ++
        Demand.when sms [.feature .twoFactorSms, .allowance .sms censusSize])

def demands (count : Int) (action : QuotaAction) : List Demand :=
  [.plan, .activeSubscription, .role action.lowestRole action.name] ++ action.planDemands count

end QuotaAction

/-! ## Decisions -/

/-- A demand that is not met, while all that come before it are. -/
def Demand.FirstUnmet (i : DecisionInput) (demands : List Demand) (d : Demand) : Prop :=
  ∃ past rest, demands = past ++ d :: rest ∧ (∀ e ∈ past, e.Met i) ∧ ¬d.Met i

/-- A rule that gives way to the first demand that is not met, and is met when there is none. -/
def Rule.Follows (i : DecisionInput) (demands : List Demand) : Rule → Prop
  | .ok () => ∀ d ∈ demands, d.Met i
  | .error reason => ∃ d, Demand.FirstUnmet i demands d ∧ reason = d.denial i

/-- A reason is true when what it says is in the way is so. -/
def DenialReason.IsTrue (i : DecisionInput) : DenialReason → Prop
  | noSubscription => i.subscription.planId = 0
  | subscriptionInactive => i.subscription.active = false
  | roleNotAllowed role _ => role = i.role ∧ role ≠ .admin
  | censusTooLarge requested limit => limit = i.plan.limits.maxCensus ∧ limit < requested
  | processLimitReached used limit =>
    used = i.usage.processes ∧ limit = i.plan.limits.maxProcesses ∧ limit ≤ used
  | featureNotEnabled f => i.plan.features.includes f = false
  | durationTooLong requested limit =>
    limit = i.plan.limits.maxDurationDays ∧ limit < requested
  | draftLimitReached count limit => limit = i.plan.limits.maxDrafts ∧ limit ≤ count
  | userLimitReached count limit => limit = i.plan.limits.maxUsers ∧ limit ≤ count
  | subOrgLimitReached count limit => limit = i.plan.limits.maxSubOrgs ∧ limit ≤ count
  | insufficientAllowance resource remaining requested =>
    remaining = i.remaining resource ∧ remaining < requested

section Rules
variable {i : DecisionInput} {d : Demand} {l m : List Demand} {r : Rule} {f : Unit → Rule}
  {asked enabled : Bool}

namespace Demand

theorem FirstUnmet.append (h : FirstUnmet i l d) (m : List Demand) : FirstUnmet i (l ++ m) d := by
  obtain ⟨past, rest, rfl, met, unmet⟩ := h
  exact ⟨past, rest ++ m, by rw [List.append_assoc, List.cons_append], met, unmet⟩

theorem FirstUnmet.after (hl : ∀ e ∈ l, e.Met i) (h : FirstUnmet i m d) :
    FirstUnmet i (l ++ m) d := by
  obtain ⟨past, rest, rfl, met, unmet⟩ := h
  refine ⟨l ++ past, rest, (List.append_assoc _ _ _).symm, fun e he => ?_, unmet⟩
  exact (List.mem_append.mp he).elim (hl e) (met e)

theorem FirstUnmet.not_met (h : FirstUnmet i l d) : ¬∀ e ∈ l, e.Met i := by
  obtain ⟨past, rest, rfl, -, unmet⟩ := h
  exact fun met => unmet (met d (List.mem_append_right _ List.mem_cons_self))

/-- Only one demand is the first that is not met. -/
theorem FirstUnmet.unique {d' : Demand} (h : FirstUnmet i l d) (h' : FirstUnmet i l d') :
    d = d' := by
  obtain ⟨past, rest, rfl, met, unmet⟩ := h
  obtain ⟨past', rest', split, met', unmet'⟩ := h'
  induction past generalizing past' with
  | nil =>
    cases past' with
    | nil => exact (List.cons.inj split).1
    | cons e past' =>
      obtain rfl : d = e := (List.cons.inj split).1
      exact absurd (met' d List.mem_cons_self) unmet
  | cons e past ih =>
    cases past' with
    | nil =>
      obtain rfl : e = d' := (List.cons.inj split).1
      exact absurd (met e List.mem_cons_self) unmet'
    | cons e' past' =>
      exact ih (fun x hx => met x (List.mem_cons_of_mem _ hx)) past' (List.cons.inj split).2
        fun x hx => met' x (List.mem_cons_of_mem _ hx)

/-- What is denied for want of a demand is denied for a true reason. -/
theorem denial_isTrue (unmet : ¬d.Met i) : (d.denial i).IsTrue i := by
  cases d with
  | plan => exact Classical.not_not.mp unmet
  | activeSubscription => exact (Bool.not_eq_true _).mp unmet
  | role lowest action =>
    refine ⟨rfl, fun admin => unmet ?_⟩
    change lowest.rank ≤ i.role.rank
    rw [admin]
    cases lowest <;> decide
  | census size => exact ⟨rfl, Int.not_le.mp unmet⟩
  | process censusSize => exact ⟨rfl, rfl, Int.not_lt.mp fun room => unmet (Or.inl room)⟩
  | feature f => exact (Bool.not_eq_true _).mp unmet
  | duration days => exact ⟨rfl, Int.not_le.mp unmet⟩
  | draft count => exact ⟨rfl, Int.not_lt.mp unmet⟩
  | user count => exact ⟨rfl, Int.not_lt.mp unmet⟩
  | subOrg count => exact ⟨rfl, Int.not_lt.mp unmet⟩
  | allowance resource messages => exact ⟨rfl, Int.not_le.mp unmet⟩

end Demand

namespace Rule

theorem follows_require {met : Bool} (h : met = true ↔ d.Met i) :
    Follows i [d] (require met (d.denial i)) := by
  cases met with
  | true => exact fun e he => List.mem_singleton.mp he ▸ h.mp rfl
  | false =>
    have unmet : ¬d.Met i := fun hd => nomatch h.mpr hd
    exact ⟨d, ⟨[], [], rfl, nofun, unmet⟩, rfl⟩

/-- Rules in sequence follow their demands in sequence. -/
theorem follows_bind (hr : Follows i l r) (hf : Follows i m (f ())) :
    Follows i (l ++ m) (r >>= f) := by
  cases r with
  | error reason =>
    obtain ⟨d, first, hd⟩ := hr
    exact ⟨d, first.append m, hd⟩
  | ok =>
    change Follows i (l ++ m) (f ())
    cases hs : f () with
    | error reason =>
      rw [hs] at hf
      obtain ⟨d, first, hd⟩ := hf
      exact ⟨d, first.after hr, hd⟩
    | ok =>
      rw [hs] at hf
      exact fun e he => (List.mem_append.mp he).elim (hr e) (hf e)

/-- What is not asked for is not demanded. -/
theorem follows_when (h : asked = true → Follows i l r) (h' : asked = false → r = .ok ()) :
    Follows i (Demand.when asked l) r := by
  cases asked with
  | true => exact h rfl
  | false =>
    rw [h' rfl]
    exact nofun

theorem allowed_iff (h : Follows i l r) : Rule.permission r = .allowed ↔ ∀ d ∈ l, d.Met i := by
  cases r with
  | ok => exact iff_of_true rfl h
  | error reason =>
    obtain ⟨d, first, -⟩ := h
    exact iff_of_false nofun first.not_met

theorem denied_iff (h : Follows i l r) (reason : DenialReason) :
    Rule.permission r = .denied reason ↔ ∃ d, Demand.FirstUnmet i l d ∧ reason = d.denial i := by
  cases r with
  | ok => exact iff_of_false nofun fun ⟨d, first, _⟩ => first.not_met h
  | error reason' =>
    obtain ⟨d, first, hd⟩ := h
    constructor
    · intro same
      exact ⟨d, first, (Permission.denied.inj same).symm.trans hd⟩
    · rintro ⟨d', first', hd'⟩
      rw [hd, first.unique first', ← hd']
      rfl

end Rule

/-! ## The rules of the book -/

theorem subscriptionGate_follows :
    Rule.Follows i [.plan, .activeSubscription] (subscriptionGate i.subscription) := by
  refine Rule.follows_bind (l := [.plan]) (Rule.follows_require ?_) (Rule.follows_require Iff.rfl)
  exact Subscription.hasPlan_iff

theorem requireAdmin_follows (action : String) :
    Rule.Follows i [.role .admin action] (requireAdmin i.role action) := by
  refine Rule.follows_require ?_
  simp only [Demand.Met]
  cases i.role <;> decide

theorem requireManager_follows (action : String) :
    Rule.Follows i [.role .manager action] (requireManager i.role action) := by
  refine Rule.follows_require ?_
  simp only [Demand.Met]
  cases i.role <;> decide

theorem requireCensus_follows (n : Int) :
    Rule.Follows i [.census n] (requireCensus n i.plan) :=
  Rule.follows_require decide_eq_true_iff

theorem requireDuration_follows (days : Int) :
    Rule.Follows i [.duration days] (requireDuration days i.plan) :=
  Rule.follows_require decide_eq_true_iff

theorem requireFeature_follows (feature : Feature) :
    Rule.Follows i (Demand.when asked [.feature feature])
      (requireFeature asked (i.plan.features.includes feature) feature) := by
  refine Rule.follows_when (fun h => ?_) fun h => ?_
  · rw [h]
    exact Rule.follows_require Iff.rfl
  · rw [h]
    rfl

theorem factorRule_follows (feature : Feature) (resource : Allowance) {limit used n : Int}
    (left : i.remaining resource = max (limit - used) 0) :
    Rule.Follows i (Demand.when asked [.feature feature, .allowance resource n])
      (factorRule asked (i.plan.features.includes feature) feature resource limit used n) := by
  refine Rule.follows_when (fun h => ?_) fun h => ?_
  · unfold factorRule
    rw [if_pos h]
    refine Rule.follows_bind (m := [.allowance resource n]) (requireFeature_follows feature) ?_
    unfold requireAllowance
    rw [← left]
    exact Rule.follows_require decide_eq_true_iff
  · unfold factorRule
    rw [if_neg (by simp [h])]

theorem newProcessRule_follows (shape : ProcessShape) :
    Rule.Follows i (TxRequest.newProcess shape).planDemands (newProcessRule i shape) := by
  refine Rule.follows_bind (requireCensus_follows shape.censusSize) ?_
  refine Rule.follows_bind (l := [.process shape.censusSize]) (Rule.follows_require ?_) ?_
  · simp only [Bool.or_eq_true, decide_eq_true_eq]
    exact Iff.rfl
  refine Rule.follows_bind (requireFeature_follows .anonymous) ?_
  refine Rule.follows_bind (requireFeature_follows .weighted) ?_
  refine Rule.follows_bind (requireFeature_follows .voteOverwrite) ?_
  exact requireDuration_follows shape.durationDays

theorem txRule_follows (i : DecisionInput) (tx : TxRequest) :
    Rule.Follows i tx.demands (txRule i tx) := by
  refine Rule.follows_bind (m := .role tx.lowestRole tx.name :: tx.planDemands)
    subscriptionGate_follows ?_
  cases tx with
  | newProcess shape =>
    exact Rule.follows_bind (requireAdmin_follows _) (newProcessRule_follows shape)
  | setProcessCensus n =>
    exact Rule.follows_bind (requireManager_follows _) (requireCensus_follows n)
  | setProcessDuration days =>
    exact Rule.follows_bind (requireManager_follows _) (requireDuration_follows days)
  | setProcessStatus => exact requireManager_follows _
  | addDelegate => exact requireAdmin_follows _
  | delDelegate => exact requireAdmin_follows _

theorem quotaRule_follows (i : DecisionInput) (action : QuotaAction) (count : Int) :
    Rule.Follows i (action.demands count) (quotaRule i action count) := by
  refine Rule.follows_bind (m := .role action.lowestRole action.name :: action.planDemands count)
    subscriptionGate_follows ?_
  cases action with
  | createDraft =>
    exact Rule.follows_bind (requireManager_follows _) (Rule.follows_require decide_eq_true_iff)
  | inviteUser =>
    exact Rule.follows_bind (requireAdmin_follows _) (Rule.follows_require decide_eq_true_iff)
  | deleteUser => exact requireAdmin_follows _
  | createSubOrg =>
    exact Rule.follows_bind (requireAdmin_follows _) (Rule.follows_require decide_eq_true_iff)
  | publishCensus n email sms =>
    refine Rule.follows_bind (requireManager_follows _) ?_
    refine Rule.follows_bind (requireCensus_follows n) ?_
    exact Rule.follows_bind (factorRule_follows .twoFactorEmail .emails rfl)
      (factorRule_follows .twoFactorSms .sms rfl)

/-- What is allowed is what meets all demands. -/
theorem evaluateTx_eq_allowed_iff (i : DecisionInput) (tx : TxRequest) :
    evaluateTx i tx = .allowed ↔ ∀ d ∈ tx.demands, d.Met i :=
  Rule.allowed_iff (txRule_follows i tx)

theorem evaluateQuota_eq_allowed_iff (i : DecisionInput) (action : QuotaAction) (count : Int) :
    evaluateQuota i action count = .allowed ↔ ∀ d ∈ action.demands count, d.Met i :=
  Rule.allowed_iff (quotaRule_follows i action count)

/-- A process that is allowed is one that the limit has room for, or one with a small census. -/
theorem room_of_newProcess {shape : ProcessShape}
    (h : evaluateTx i (.newProcess shape) = .allowed) :
    i.usage.processes < i.plan.limits.maxProcesses ∨ shape.censusSize ≤ i.testCensusAllowance := by
  have demanded : .process shape.censusSize ∈ (TxRequest.newProcess shape).demands := by
    simp [TxRequest.demands, TxRequest.planDemands]
  exact (evaluateTx_eq_allowed_iff i _).mp h _ demanded

/-- A census that is allowed has room for the messages that are asked for. -/
theorem room_of_publishCensus {n count : Int} {email sms : Bool}
    (h : evaluateQuota i (.publishCensus n email sms) count = .allowed) :
    (email = true → n ≤ i.remaining .emails) ∧ (sms = true → n ≤ i.remaining .sms) := by
  have met := (evaluateQuota_eq_allowed_iff i _ count).mp h
  constructor
  · rintro rfl
    refine met (.allowance .emails n) ?_
    simp [QuotaAction.demands, QuotaAction.planDemands, Demand.when]
  · rintro rfl
    refine met (.allowance .sms n) ?_
    simp [QuotaAction.demands, QuotaAction.planDemands, Demand.when]

/-- An answer that is given by a list of demands. -/
structure Permission.ByTheBook (i : DecisionInput) (demands : List Demand) (p : Permission) :
    Prop where
  allowed_iff : p = .allowed ↔ ∀ d ∈ demands, d.Met i
  denied_iff : ∀ reason, p = .denied reason ↔
    ∃ d, Demand.FirstUnmet i demands d ∧ reason = d.denial i
  truthful : ∀ reason, p = .denied reason → reason.IsTrue i
  unsubscribed : i.subscription.planId = 0 → p = .denied .noSubscription

theorem Rule.byTheBook (h : Follows i (.plan :: l) r) :
    (permission r).ByTheBook i (.plan :: l) where
  allowed_iff := allowed_iff h
  denied_iff := denied_iff h
  truthful reason hdenied := by
    obtain ⟨d, ⟨past, rest, -, -, unmet⟩, rfl⟩ := (denied_iff h reason).mp hdenied
    exact Demand.denial_isTrue unmet
  unsubscribed none :=
    (denied_iff h _).mpr ⟨.plan, ⟨[], l, rfl, nofun, fun met => met none⟩, rfl⟩

/-- Every decision is by the book: what meets all demands is allowed, what does not is denied for
want of the first one it does not meet, and for a true reason; and without a plan nothing is
allowed. -/
theorem decisions_by_the_book (i : DecisionInput) :
    (∀ tx, (evaluateTx i tx).ByTheBook i tx.demands) ∧
      ∀ action count, (evaluateQuota i action count).ByTheBook i (action.demands count) :=
  ⟨fun tx => Rule.byTheBook (txRule_follows i tx),
    fun action count => Rule.byTheBook (quotaRule_follows i action count)⟩

end Rules

end TenantBilling
