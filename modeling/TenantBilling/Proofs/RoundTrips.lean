import TenantBilling.Health.Violation
import TenantBilling.Proofs.Moments

/-! Records and their documents. Every record is read again from the text it is written as, its
numbers being those of their words; a violation is exactly when no object in its context begins
with the key of embedded documents. -/

namespace TenantBilling

open Text Json Encoding

/-! ### Numbers within their words -/

structure Counters.Sized (c : Counters) : Prop where
  processes : fitsInt64 c.processes = true
  sentEmails : fitsInt64 c.sentEmails = true
  sentSms : fitsInt64 c.sentSms = true

structure PlanLimits.Sized (l : PlanLimits) : Prop where
  processes : fitsInt64 l.maxProcesses = true
  census : fitsInt64 l.maxCensus = true
  drafts : fitsInt64 l.maxDrafts = true
  sentEmails : fitsInt64 l.maxSentEmails = true
  sentSms : fitsInt64 l.maxSentSms = true
  durationDays : fitsInt64 l.maxDurationDays = true
  subOrgs : fitsInt64 l.maxSubOrgs = true
  users : fitsInt64 l.maxUsers = true

structure Plan.Sized (p : Plan) : Prop where
  id : fitsInt64 p.id = true
  monthlyPrice : ∀ n ∈ p.monthlyPriceCents, fitsInt64 n = true
  yearlyPrice : ∀ n ∈ p.yearlyPriceCents, fitsInt64 n = true
  trialDays : fitsInt64 p.freeTrialDays = true
  limits : p.limits.Sized

structure Organization.Sized (o : Organization) : Prop where
  planId : fitsInt64 o.subscription.planId = true
  counters : o.counters.Sized

/-- A context without doubles, whose whole numbers are within range and whose objects are maps. -/
structure Violation.Sized (v : Violation) : Prop where
  whole : v.context.Whole
  sound : v.context.Sound

structure HealthSummary.Sized (s : HealthSummary) : Prop where
  run : s.checksRun ≤ nat64Greatest
  passed : s.checksPassed ≤ nat64Greatest
  failed : s.checksFailed ≤ nat64Greatest
  violations : ∀ v ∈ s.violations, v.Sized

namespace Encoding

variable (depth : Nat)

theorem counters?_site {c : Counters} (sized : c.Sized) :
    counters? ((ofCounters c).site (depth + 1)) = some c := by
  unfold counters? ofCounters
  refine Option.bind_eq_some_iff.mpr ⟨_, Site.slots?_site rfl (by decide), ?_⟩
  simp [slotsOf, Slots.required, Slots.get?, Site.int64?_site, sized.processes, sized.sentEmails,
    sized.sentSms]

theorem limits?_site {l : PlanLimits} (sized : l.Sized) :
    limits? ((ofLimits l).site (depth + 1)) = some l := by
  unfold limits? ofLimits
  refine Option.bind_eq_some_iff.mpr ⟨_, Site.slots?_site rfl (by decide), ?_⟩
  simp [slotsOf, Slots.defaulted, Slots.get?, Site.int64?_site, sized.processes, sized.census,
    sized.drafts, sized.sentEmails, sized.sentSms, sized.durationDays, sized.subOrgs, sized.users]

theorem features?_site (f : PlanFeatures) :
    features? ((ofFeatures f).site (depth + 1)) = some f := by
  unfold features? ofFeatures
  refine Option.bind_eq_some_iff.mpr ⟨_, Site.slots?_site rfl (by decide), ?_⟩
  simp [slotsOf, Slots.defaulted, Slots.get?]

theorem period?_site (p : BillingPeriod) : period? ((ofPeriod p).site depth) = some p := by
  unfold period? ofPeriod
  rw [Site.variant?_site]
  cases p <;> rfl

theorem severity?_site (s : Severity) : severity? ((ofSeverity s).site depth) = some s := by
  unfold severity? ofSeverity
  rw [Site.variant?_site]
  cases s <;> rfl

theorem uuid?_site (u : Uuid) : uuid? ((ofUuid u).site depth) = some u := by
  unfold uuid? ofUuid
  rw [Site.text?_site, Option.bind_some]
  exact u.ofText?_text

theorem optionalDate_site (o : Option Calendar.DateTime) :
    Site.optional dateTime? ((ofOptional ofDateTime o).site (depth + 1)) = some o :=
  Site.optional_site (fun _ null => by cases null) fun t _ => dateTime?_site t depth

theorem optionalInt_site {o : Option Int} (fits : ∀ n ∈ o, fitsInt64 n = true) :
    Site.optional Site.int64? ((ofOptional Value.int o).site depth) = some o :=
  Site.optional_site (fun _ null => by cases null) fun n hn => Site.int64?_site (fits n hn)

theorem plan?_site {p : Plan} (sized : p.Sized) :
    plan? ((ofPlan p).site (depth + 2)) = some p := by
  unfold plan? ofPlan
  refine Option.bind_eq_some_iff.mpr ⟨_, Site.slots?_site rfl (by decide), ?_⟩
  simp [slotsOf, Slots.required, Slots.nullable, Slots.get?, Site.int64?_site, sized.id,
    optionalInt_site _ sized.monthlyPrice, optionalInt_site _ sized.yearlyPrice, sized.trialDays,
    limits?_site _ sized.limits, features?_site]

theorem subscription?_site {s : Subscription} (fits : fitsInt64 s.planId = true) :
    subscription? ((ofSubscription s).site (depth + 2)) = some s := by
  unfold subscription? ofSubscription
  refine Option.bind_eq_some_iff.mpr ⟨_, Site.slots?_site rfl (by decide), ?_⟩
  simp [slotsOf, Slots.required, Slots.nullable, Slots.get?, Site.int64?_site, fits, period?_site,
    optionalDate_site]

theorem organization?_site {o : Organization} (sized : o.Sized) :
    organization? ((ofOrganization o).site (depth + 3)) = some o := by
  unfold organization? ofOrganization
  refine Option.bind_eq_some_iff.mpr ⟨_, Site.slots?_site rfl (by decide), ?_⟩
  simp [slotsOf, Slots.required, Slots.get?, subscription?_site _ sized.planId,
    counters?_site _ sized.counters]

theorem snapshot?_site {s : Snapshot} (sized : s.baseline.Sized) :
    snapshot? ((ofSnapshot s).site (depth + 2)) = some s := by
  unfold snapshot? ofSnapshot
  refine Option.bind_eq_some_iff.mpr ⟨_, Site.slots?_site rfl (by decide), ?_⟩
  simp [slotsOf, Slots.required, Slots.get?, uuid?_site, dateTime?_site, period?_site,
    counters?_site _ sized]

/-- A violation is read again when its context is; all its other fields always are. -/
theorem violation?_site (v : Violation) :
    violation? ((ofViolation v).site (depth + 2)) =
      (v.context.site (depth + 1)).value?.map fun context => { v with context } := by
  have addresses : ((Value.array (v.addresses.map .string)).site (depth + 1)).list? Site.text? =
      some v.addresses :=
    (Site.list?_site_iff Site.text? .string v.addresses).mpr fun s _ => Site.text?_site s
  have slots : ((ofViolation v).site (depth + 2)).slots? ["invariant", "org_addresses",
      "description", "context", "severity"] = some (slotsOf _ (depth + 1)) :=
    Site.slots?_site rfl (by decide)
  unfold violation?
  rw [slots]
  simp only [slotsOf, List.map_cons, List.map_nil, Slots.required, Slots.get?, Option.pure_def,
    Option.bind_eq_bind, Option.bind_some, BEq.rfl, List.find?_cons_of_pos, Option.map_some,
    Site.text?_site, String.reduceBEq, Bool.false_eq_true, not_false_eq_true,
    List.find?_cons_of_neg, addresses, severity?_site]
  exact Option.map_eq_bind.symm

theorem violation?_site_iff {v : Violation} (sized : v.Sized)
    (enough : (ofViolation v).depth ≤ depth) :
    violation? ((ofViolation v).site depth) = some v ↔ v.context.Unmarked := by
  obtain _ | depth := depth
  · exact absurd enough (Nat.not_succ_le_zero _)
  have fields := Value.depth_object_le_iff.mp enough
  obtain _ | depth := depth
  · have array := fields _ (List.mem_cons_of_mem _ List.mem_cons_self)
    exact absurd array (Nat.not_succ_le_zero _)
  have context : v.context.depth ≤ depth + 1 := fields ("context", v.context) (by simp)
  rw [violation?_site, ← Site.value?_site_iff sized.whole sized.sound context,
    Option.map_eq_some_iff]
  constructor
  · rintro ⟨context, read, same⟩
    have kept : v.context = context := congrArg Violation.context same.symm
    exact read.trans (congrArg some kept.symm)
  · intro read
    exact ⟨v.context, read, rfl⟩

/-- A summary is read again when its violations are. -/
theorem summary?_site {s : HealthSummary} (sized : s.Sized) :
    summary? ((ofSummary s).site (depth + 2)) =
      (((Value.array (s.violations.map ofViolation)).site (depth + 1)).list? violation?).map
        fun violations => { s with violations } := by
  have slots : ((ofSummary s).site (depth + 2)).slots? ["checked_at", "checks_run",
      "checks_passed", "checks_failed", "violations", "healthy"] =
        some (slotsOf _ (depth + 1)) :=
    Site.slots?_site rfl (by decide)
  unfold summary?
  rw [slots]
  simp only [slotsOf, List.map_cons, List.map_nil, Slots.required, Slots.get?, Option.pure_def,
    Option.bind_eq_bind, Option.bind_some, BEq.rfl, List.find?_cons_of_pos, Option.map_some,
    dateTime?_site, String.reduceBEq, Bool.false_eq_true, not_false_eq_true,
    List.find?_cons_of_neg, Site.nat64?_site, sized.run, sized.passed, sized.failed,
    Site.bool?_site]
  exact Option.map_eq_bind.symm

theorem summary?_site_iff {s : HealthSummary} (sized : s.Sized)
    (enough : (ofSummary s).depth ≤ depth) :
    summary? ((ofSummary s).site depth) = some s ↔ ∀ v ∈ s.violations, v.context.Unmarked := by
  obtain _ | depth := depth
  · exact absurd enough (Nat.not_succ_le_zero _)
  have fields := Value.depth_object_le_iff.mp enough
  obtain _ | depth := depth
  · have array := fields _ List.mem_cons_self
    exact absurd array (Nat.not_succ_le_zero _)
  have list : (Value.array (s.violations.map ofViolation)).depth ≤ depth + 1 :=
    fields ("violations", .array (s.violations.map ofViolation)) (by simp)
  have inside := List.forall_mem_map.mp (Value.depth_array_le_iff.mp list)
  have reads : ((Value.array (s.violations.map ofViolation)).site (depth + 1)).list? violation? =
      some s.violations ↔ ∀ v ∈ s.violations, v.context.Unmarked :=
    (Site.list?_site_iff _ _ _).trans
      (forall₂_congr fun v hv => violation?_site_iff depth (sized.violations v hv) (inside v hv))
  rw [summary?_site depth sized, ← reads, Option.map_eq_some_iff]
  constructor
  · rintro ⟨violations, read, same⟩
    have kept : s.violations = violations := congrArg HealthSummary.violations same.symm
    exact read.trans (congrArg some kept.symm)
  · intro read
    exact ⟨s.violations, read, rfl⟩

end Encoding

/-! ### Documents of records -/

/-- Whether a record is read again from the text it is written as. -/
def ReadsBack {α : Type} (read : Site → Option α) (write : α → Value) (a : α) : Prop :=
  (Site.ofBytes? (Utf8.bytes (write a).text)).bind read = some a

theorem readsBack_iff {α : Type} {read : Site → Option α} {write : α → Value} {a : α}
    (whole : (write a).Whole) :
    ReadsBack read write a ↔ read ((write a).site deepest) = some a := by
  unfold ReadsBack
  rw [Site.ofBytes?_text whole, Option.bind_some]

namespace Encoding

theorem whole_ofOptional {α : Type} {write : α → Value} (whole : ∀ a, (write a).Whole)
    (o : Option α) : (ofOptional write o).Whole := by
  cases o with
  | none => rfl
  | some a => exact whole a

theorem whole_ofDateTime (t : Calendar.DateTime) : (ofDateTime t).Whole := rfl

theorem whole_ofPlan (p : Plan) : (ofPlan p).Whole := by
  have prices := whole_ofOptional Value.whole_int
  simp [ofPlan, ofLimits, ofFeatures, Value.whole_object_iff, prices]

theorem whole_ofSubscription (s : Subscription) : (ofSubscription s).Whole := by
  have dates := whole_ofOptional whole_ofDateTime
  simp [ofSubscription, ofPeriod, Value.whole_object_iff, dates]

theorem whole_ofViolation {v : Violation} (sized : v.Sized) : (ofViolation v).Whole := by
  simp [ofViolation, ofSeverity, Value.whole_object_iff, Value.whole_array_iff, sized.whole]

theorem whole_ofSummary {s : HealthSummary} (sized : s.Sized) : (ofSummary s).Whole := by
  have violations : ∀ v ∈ s.violations, (ofViolation v).Whole := fun v hv =>
    whole_ofViolation (sized.violations v hv)
  simpa [ofSummary, Value.whole_object_iff, Value.whole_array_iff, whole_ofDateTime]

end Encoding

/-- Each record is read again from the text it is written as, at every value of its fields. With a
violation, and so with a summary, it is no more than this: that no object of a context has the key
of embedded documents first. -/
theorem records_read_back :
    (∀ l : PlanLimits, l.Sized → ReadsBack limits? ofLimits l) ∧
    (∀ f : PlanFeatures, ReadsBack features? ofFeatures f) ∧
    (∀ p : Plan, p.Sized → ReadsBack plan? ofPlan p) ∧
    (∀ c : Counters, c.Sized → ReadsBack counters? ofCounters c) ∧
    (∀ s : Subscription, fitsInt64 s.planId = true → ReadsBack subscription? ofSubscription s) ∧
    (∀ o : Organization, o.Sized → ReadsBack organization? ofOrganization o) ∧
    (∀ s : Snapshot, s.baseline.Sized → ReadsBack snapshot? ofSnapshot s) ∧
    (∀ v : Violation, v.Sized → (ofViolation v).depth ≤ deepest →
      (ReadsBack violation? ofViolation v ↔ v.context.Unmarked)) ∧
    (∀ s : HealthSummary, s.Sized → (ofSummary s).depth ≤ deepest →
      (ReadsBack summary? ofSummary s ↔ ∀ v ∈ s.violations, v.context.Unmarked)) := by
  refine ⟨fun l sized => ?_, fun f => ?_, fun p sized => ?_, fun c sized => ?_, fun s fits => ?_,
    fun o sized => ?_, fun s sized => ?_, fun v sized enough => ?_, fun s sized enough => ?_⟩
  · have whole : (ofLimits l).Whole := rfl
    exact (readsBack_iff whole).mpr (limits?_site _ sized)
  · have whole : (ofFeatures f).Whole := rfl
    exact (readsBack_iff whole).mpr (features?_site _ f)
  · exact (readsBack_iff (whole_ofPlan p)).mpr (plan?_site _ sized)
  · have whole : (ofCounters c).Whole := rfl
    exact (readsBack_iff whole).mpr (counters?_site _ sized)
  · exact (readsBack_iff (whole_ofSubscription s)).mpr (subscription?_site _ fits)
  · have whole : (ofOrganization o).Whole := by
      simp [ofOrganization, ofCounters, Value.whole_object_iff, whole_ofSubscription]
    exact (readsBack_iff whole).mpr (organization?_site _ sized)
  · have whole : (ofSnapshot s).Whole := rfl
    exact (readsBack_iff whole).mpr (snapshot?_site _ sized)
  · exact (readsBack_iff (whole_ofViolation sized)).trans (violation?_site_iff _ sized enough)
  · exact (readsBack_iff (whole_ofSummary sized)).trans (summary?_site_iff _ sized enough)

section Extremes

def farWest : Calendar.DateTime :=
  ⟨⟨-9999, 365, by decide, by decide, by decide, by decide⟩, 86399, 999999999,
    ⟨-93599, by decide, by decide⟩, by decide, by decide⟩

def farEast : Calendar.DateTime :=
  ⟨⟨9999, 365, by decide, by decide, by decide, by decide⟩, 1, 1,
    ⟨93599, by decide, by decide⟩, by decide, by decide⟩

def extremeCounters : Counters := ⟨int64Least, -1, int64Greatest⟩

def extremeLimits : PlanLimits := ⟨int64Least, -1, 0, 1, 9, 10, 99, int64Greatest⟩

def extremePlan : Plan where
  id := int64Greatest
  name := "\"Pro\" \\ Ω𝄞\n\t\x01"
  productId := ""
  monthlyPriceCents := some int64Least
  yearlyPriceCents := none
  isDefault := true
  freeTrialDays := -1
  limits := extremeLimits
  features := ⟨true, false, true, false, true, false, true⟩

def extremeSubscription : Subscription :=
  ⟨int64Least, "sub_1", .annual, some farWest, some farEast, none, true, "a@b.test"⟩

def extremeOrganization : Organization := ⟨"0xa1", extremeSubscription, extremeCounters⟩

def extremeSnapshot : Snapshot :=
  ⟨⟨BitVec.allOnes 128⟩, "0xa1", farWest, farEast, .monthly, extremeCounters, farWest⟩

/-- A violation whose context has the key of embedded documents behind another. -/
def extremeViolation : Violation :=
  ⟨"check", ["0xa1"], "", .object [("", .null), (embeddedKey, .string "1"),
    ("a", .array [.int int64Least, .int nat64Greatest])], .critical⟩

def extremeSummary : HealthSummary := ⟨farWest, 1, 0, nat64Greatest, [extremeViolation], false⟩

/-- The ends of the integers and of the calendar, a name of quotes, breaks and characters outside
the first plane, and a context that only looks embedded. -/
theorem extremes_read_back :
    extremePlan.Sized ∧ extremeOrganization.Sized ∧ extremeSummary.Sized ∧
    (ofSummary extremeSummary).depth ≤ deepest ∧
    ReadsBack limits? ofLimits extremeLimits ∧
    ReadsBack features? ofFeatures extremePlan.features ∧
    ReadsBack plan? ofPlan extremePlan ∧
    ReadsBack counters? ofCounters extremeCounters ∧
    ReadsBack subscription? ofSubscription extremeSubscription ∧
    ReadsBack organization? ofOrganization extremeOrganization ∧
    ReadsBack snapshot? ofSnapshot extremeSnapshot ∧
    ReadsBack violation? ofViolation extremeViolation ∧
    ReadsBack summary? ofSummary extremeSummary := by
  have counters : extremeCounters.Sized := by constructor <;> decide
  have limits : extremeLimits.Sized := by constructor <;> decide
  have plan : extremePlan.Sized := ⟨by decide, by decide, by decide, by decide, limits⟩
  have organization : extremeOrganization.Sized := ⟨by decide, counters⟩
  have violation : extremeViolation.Sized := ⟨by decide, by decide⟩
  have summary : extremeSummary.Sized :=
    ⟨by decide, by decide, by decide, fun v hv => List.mem_singleton.mp hv ▸ violation⟩
  have depth : (ofSummary extremeSummary).depth ≤ deepest := by decide
  have unmarked : extremeViolation.context.Unmarked := by decide
  obtain ⟨l, f, p, c, s, o, n, v, h⟩ := records_read_back
  refine ⟨plan, organization, summary, depth, l _ limits, f _, p _ plan, c _ counters,
    s _ (by decide), o _ organization, n _ counters, (v _ violation (by decide)).mpr unmarked,
    (h _ summary depth).mpr fun v hv => ?_⟩
  rw [List.mem_singleton.mp hv]
  exact unmarked

/-- A violation whose context has the key of embedded documents first. -/
def markedViolation : Violation :=
  ⟨"x", [], "d", .object [(embeddedKey, .string "1")], .high⟩

/-- The context is read as the document that its text holds, which is the number one. -/
theorem marked_reads_otherwise :
    markedViolation.Sized ∧ (ofViolation markedViolation).depth ≤ deepest ∧
    (Site.ofBytes? (Utf8.bytes (ofViolation markedViolation).text)).bind violation? =
      some { markedViolation with context := .int 1 } ∧
    ¬ReadsBack violation? ofViolation markedViolation := by
  have sized : markedViolation.Sized := ⟨by decide, by decide⟩
  have read : (Site.ofBytes? (Utf8.bytes (ofViolation markedViolation).text)).bind violation? =
      some { markedViolation with context := .int 1 } := by
    have embedded : (markedViolation.context.site 126).value? = Value.ofText? "1" :=
      Tree.toValue?_embedded rfl "1"
    have number : "1" = (Value.int 1).text := by decide
    have one : Value.ofText? (Value.int 1).text = some (.int 1) :=
      (Value.ofText?_text_iff (Value.whole_int 1) rfl (by decide)).mpr rfl
    rw [Site.ofBytes?_text (whole_ofViolation sized), Option.bind_some, deepest,
      violation?_site 125, embedded, number, one]
    rfl
  refine ⟨sized, by decide, read, fun same => ?_⟩
  have context := congrArg Violation.context (Option.some.inj (read.symm.trans same))
  cases context

end Extremes

end TenantBilling
