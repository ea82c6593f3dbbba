import TenantBilling.Proofs.Replay

/-! Plans brought up to date. A product speaks under three metadata keys, which are read in a fixed
order; the first text that cannot be read is named, and nothing is brought up to date. What a
product does not speak of stays as it is stored, and what it speaks of is told by the product and
its prices alone. So a plan that is up to date is a fixed point, and the same product event finds
nothing to change when it comes again. -/

namespace TenantBilling

/-! ## What a product says -/

/-- A text that is the document of some limits. -/
def ReadsLimits (text : String) (limits : PlanLimits) : Prop :=
  (Json.Site.ofBytes? (Text.Utf8.bytes text)).bind Encoding.limits? = some limits

/-- A text that is the document of some features. -/
def ReadsFeatures (text : String) (features : PlanFeatures) : Prop :=
  (Json.Site.ofBytes? (Text.Utf8.bytes text)).bind Encoding.features? = some features

/-- A text that is a 64-bit number of days when it is trimmed, and no negative one. -/
def ReadsDays (text : String) (days : Int) : Prop :=
  Text.Numeral.int64? (Text.trimChars text.toList) = some days ∧ 0 ≤ days

/-- A metadata entry that is absent or can be read. -/
def Legible {α : Type} (reads : String → α → Prop) (entry : Option String) : Prop :=
  ∀ text, entry = some text → ∃ a, reads text a

/-- What comes of a metadata entry: what it reads as, or what is stored when it is absent. -/
def Settles {α : Type} (reads : String → α → Prop) (stored a : α) : Option String → Prop
  | none => a = stored
  | some text => reads text a

/-- What is said of the first metadata entry that cannot be read; of a document that cannot, in the
words of its reader. -/
inductive FirstFault (words : String) (product : Product) : String → Prop where
  | limits (unreadable : ¬Legible ReadsLimits (product.metadata.get? "limits")) :
    FirstFault words product ("product " ++ product.id ++ " metadata \"limits\": " ++ words)
  | features (limits : Legible ReadsLimits (product.metadata.get? "limits"))
      (unreadable : ¬Legible ReadsFeatures (product.metadata.get? "features")) :
    FirstFault words product ("product " ++ product.id ++ " metadata \"features\": " ++ words)
  | freeTrialDays (text : String) (limits : Legible ReadsLimits (product.metadata.get? "limits"))
      (features : Legible ReadsFeatures (product.metadata.get? "features"))
      (entry : product.metadata.get? "free_trial_days" = some text)
      (unreadable : ∀ days, ¬ReadsDays text days) :
    FirstFault words product
      ("product " ++ product.id ++ " has invalid free_trial_days: " ++ text)

/-- A price that is asked for an interval: it is active, recurs so often, and has an amount. -/
structure Price.Asks (price : Price) (period : BillingPeriod) (amount : Int) : Prop where
  active : price.active = true
  interval : price.interval = some period
  amount : price.unitAmount = some amount

/-- What is asked for an interval: the amount of the first price in the list that is asked. -/
def FirstAsked (prices : List Price) (period : BillingPeriod) : Option Int → Prop
  | some amount => ∃ before price after, prices = before ++ price :: after ∧
      price.Asks period amount ∧ ∀ other ∈ before, ∀ a, ¬other.Asks period a
  | none => ∀ price ∈ prices, ∀ a, ¬price.Asks period a

/-- A plan as it should be after its product and the prices of it. -/
structure Refreshed (plan : Plan) (product : Product) (prices : List Price) (new : Plan) :
    Prop where
  id : new.id = plan.id
  productId : new.productId = plan.productId
  isDefault : new.isDefault = plan.isDefault
  name : new.name = if Text.trimChars product.name.toList = [] then plan.name else product.name
  limits : Settles ReadsLimits plan.limits new.limits (product.metadata.get? "limits")
  features : Settles ReadsFeatures plan.features new.features (product.metadata.get? "features")
  freeTrialDays : Settles ReadsDays plan.freeTrialDays new.freeTrialDays
    (product.metadata.get? "free_trial_days")
  monthly : FirstAsked prices .monthly new.monthlyPriceCents
  yearly : FirstAsked prices .annual new.yearlyPriceCents

/-! ## Reading an entry -/

section Entry
variable {α : Type} {reads : String → α → Prop} {stored a : α} {entry : Option String}

theorem Settles.legible (h : Settles reads stored a entry) : Legible reads entry := by
  intro text present
  rw [present] at h
  exact ⟨a, h⟩

theorem Legible.settles (h : Legible reads entry) (stored : α) :
    ∃ a, Settles reads stored a entry := by
  cases entry with
  | none => exact ⟨stored, rfl⟩
  | some text => exact h text rfl

variable {product : Product} {key : String} {read : Json.Site → Option α} {fault : ProductFault}

theorem record_eq_ok_iff : product.record key stored read = .ok a ↔
    Settles (fun text a => (Json.Site.ofBytes? (Text.Utf8.bytes text)).bind read = some a)
      stored a (product.metadata.get? key) := by
  unfold Product.record
  cases product.metadata.get? key with
  | none => simp [Settles, eq_comm]
  | some text =>
    simp only [Settles]
    cases (Json.Site.ofBytes? (Text.Utf8.bytes text)).bind read <;> simp

theorem record_eq_error (h : ¬Legible (fun text a =>
      (Json.Site.ofBytes? (Text.Utf8.bytes text)).bind read = some a) (product.metadata.get? key)) :
    product.record key stored read = .error (.unreadable product.id key) := by
  unfold Product.record
  cases present : product.metadata.get? key with
  | none =>
    rw [present] at h
    exact absurd nofun h
  | some text =>
    dsimp only
    cases found : (Json.Site.ofBytes? (Text.Utf8.bytes text)).bind read with
    | none => rfl
    | some a =>
      rw [present] at h
      exact absurd (fun other same => Option.some.inj same ▸ ⟨a, found⟩) h

theorem trialDays?_eq_some_iff {text : String} {days : Int} :
    Product.trialDays? text = some days ↔ ReadsDays text days := by
  unfold Product.trialDays? ReadsDays
  rw [Option.filter_eq_some_iff, decide_eq_true_eq]

theorem freeTrialDays_eq_ok_iff {stored days : Int} : product.freeTrialDays stored = .ok days ↔
    Settles ReadsDays stored days (product.metadata.get? "free_trial_days") := by
  unfold Product.freeTrialDays freeTrialDaysKey
  cases product.metadata.get? "free_trial_days" with
  | none => simp [Settles, eq_comm]
  | some text =>
    simp only [Settles, ← trialDays?_eq_some_iff]
    cases Product.trialDays? text <;> simp

theorem freeTrialDays_eq_error {text : String}
    (entry : product.metadata.get? "free_trial_days" = some text)
    (unreadable : ∀ days, ¬ReadsDays text days) (stored : Int) :
    product.freeTrialDays stored = .error (.invalidTrialDays product.id text) := by
  have nothing : Product.trialDays? text = none := by
    rw [Option.eq_none_iff_forall_ne_some]
    intro days found
    exact unreadable days (trialDays?_eq_some_iff.mp found)
  unfold Product.freeTrialDays freeTrialDaysKey
  rw [entry]
  dsimp only
  rw [nothing]

end Entry

/-! ## Prices -/

/-- The amount of a price, when it is asked for an interval. -/
def Price.asked? (period : BillingPeriod) (price : Price) : Option Int :=
  if price.active && price.interval == some period then price.unitAmount else none

theorem asked?_eq_some_iff {price : Price} {period : BillingPeriod} {amount : Int} :
    price.asked? period = some amount ↔ price.Asks period amount := by
  unfold Price.asked?
  constructor
  · intro h
    split at h
    · rename_i recurs
      rw [Bool.and_eq_true, beq_iff_eq] at recurs
      exact ⟨recurs.1, recurs.2, h⟩
    · cases h
  · intro h
    rw [h.active, h.interval, h.amount]
    simp

theorem asked?_eq_none_iff {price : Price} {period : BillingPeriod} :
    price.asked? period = none ↔ ∀ a, ¬price.Asks period a := by
  rw [Option.eq_none_iff_forall_ne_some]
  exact forall_congr' fun a => not_congr asked?_eq_some_iff

theorem recurringAmount_eq (prices : List Price) (period : BillingPeriod) :
    recurringAmount prices period = prices.findSome? (·.asked? period) := by
  unfold recurringAmount
  induction prices with
  | nil => rfl
  | cons price prices ih =>
    rw [List.filter_cons, List.findSome?_cons, ← ih]
    unfold Price.asked?
    split
    · rw [List.findSome?_cons]
    · rfl

theorem recurringAmount_eq_iff {prices : List Price} {period : BillingPeriod} {r : Option Int} :
    recurringAmount prices period = r ↔ FirstAsked prices period r := by
  rw [recurringAmount_eq]
  cases r with
  | none => simp only [List.findSome?_eq_none_iff, asked?_eq_none_iff, FirstAsked]
  | some amount =>
    simp only [List.findSome?_eq_some_iff, asked?_eq_some_iff, asked?_eq_none_iff, FirstAsked]

/-! ## Plans -/

variable {words : String} {plan new : Plan} {product : Product} {prices : List Price}

theorem isAllBlank_iff (text : String) :
    Text.isAllBlank text = true ↔ Text.trimChars text.toList = [] :=
  (Text.trimChars_eq_nil_iff text.toList).symm

theorem refresh_eq_ok_iff : plan.refresh product prices = .ok new ↔
    Refreshed plan product prices new := by
  have name : (if Text.isAllBlank product.name then plan.name else product.name) =
      if Text.trimChars product.name.toList = [] then plan.name else product.name := by
    simp only [isAllBlank_iff]
  unfold Plan.refresh
  simp only [bind_eq_ok_iff, record_eq_ok_iff, freeTrialDays_eq_ok_iff]
  constructor
  · rintro ⟨limits, hlimits, features, hfeatures, days, hdays, h⟩
    cases h
    exact ⟨rfl, rfl, rfl, name, hlimits, hfeatures, hdays, recurringAmount_eq_iff.mp rfl,
      recurringAmount_eq_iff.mp rfl⟩
  · intro h
    refine ⟨_, h.limits, _, h.features, _, h.freeTrialDays, ?_⟩
    rw [name, ← h.id, ← h.productId, ← h.isDefault, ← h.name, recurringAmount_eq_iff.mpr h.monthly,
      recurringAmount_eq_iff.mpr h.yearly]
    rfl

theorem planOfProductWith_eq_ok_iff : planOfProductWith words plan product prices = .ok new ↔
    Refreshed plan product prices new :=
  mapError_eq_ok_iff.trans refresh_eq_ok_iff

theorem planOfProductWith_of_error {fault : ProductFault}
    (h : plan.refresh product prices = .error fault) :
    planOfProductWith words plan product prices =
      .error (.invalidProviderData (fault.message words)) := by
  unfold planOfProductWith
  rw [h]
  rfl

/-- A product in order: each of the three entries is absent or can be read. -/
structure Product.InOrder (product : Product) : Prop where
  limits : Legible ReadsLimits (product.metadata.get? "limits")
  features : Legible ReadsFeatures (product.metadata.get? "features")
  freeTrialDays : Legible ReadsDays (product.metadata.get? "free_trial_days")

theorem exists_planOfProductWith_iff :
    (∃ new, planOfProductWith words plan product prices = .ok new) ↔ product.InOrder := by
  simp only [planOfProductWith_eq_ok_iff]
  constructor
  · rintro ⟨new, h⟩
    exact ⟨h.limits.legible, h.features.legible, h.freeTrialDays.legible⟩
  · intro h
    obtain ⟨limits, hlimits⟩ := h.limits.settles plan.limits
    obtain ⟨features, hfeatures⟩ := h.features.settles plan.features
    obtain ⟨days, hdays⟩ := h.freeTrialDays.settles plan.freeTrialDays
    exact ⟨⟨plan.id, _, plan.productId, recurringAmount prices .monthly,
        recurringAmount prices .annual, plan.isDefault, days, limits, features⟩,
      rfl, rfl, rfl, rfl, hlimits, hfeatures, hdays, recurringAmount_eq_iff.mp rfl,
      recurringAmount_eq_iff.mp rfl⟩

theorem message_unreadable (id key : String) : (ProductFault.unreadable id key).message words =
    "product " ++ id ++ (" metadata \"" ++ key ++ "\": ") ++ words := by
  simp only [ProductFault.message, String.append_assoc]

/-- A product that is not in order is refused for its first fault. -/
theorem planOfProductWith_of_fault {detail : String} (h : FirstFault words product detail) :
    planOfProductWith words plan product prices = .error (.invalidProviderData detail) := by
  have read {limits : PlanLimits}
      (h : Settles ReadsLimits plan.limits limits (product.metadata.get? "limits")) :
      product.record limitsKey plan.limits Encoding.limits? = .ok limits := record_eq_ok_iff.mpr h
  have read' {features : PlanFeatures}
      (h : Settles ReadsFeatures plan.features features (product.metadata.get? "features")) :
      product.record featuresKey plan.features Encoding.features? = .ok features :=
    record_eq_ok_iff.mpr h
  cases h with
  | limits unreadable =>
    have refused : product.record limitsKey plan.limits Encoding.limits? =
        .error (.unreadable product.id limitsKey) := record_eq_error unreadable
    have fault : plan.refresh product prices = .error (.unreadable product.id limitsKey) := by
      simp only [Plan.refresh, refused, bind, Except.bind]
    rw [planOfProductWith_of_error fault, message_unreadable]
    rfl
  | features limits unreadable =>
    obtain ⟨a, settled⟩ := limits.settles plan.limits
    have refused : product.record featuresKey plan.features Encoding.features? =
        .error (.unreadable product.id featuresKey) := record_eq_error unreadable
    have fault : plan.refresh product prices = .error (.unreadable product.id featuresKey) := by
      simp only [Plan.refresh, read settled, refused, bind, Except.bind]
    rw [planOfProductWith_of_error fault, message_unreadable]
    rfl
  | freeTrialDays text limits features entry unreadable =>
    obtain ⟨a, settled⟩ := limits.settles plan.limits
    obtain ⟨b, settled'⟩ := features.settles plan.features
    have refused := freeTrialDays_eq_error entry unreadable plan.freeTrialDays
    have fault : plan.refresh product prices = .error (.invalidTrialDays product.id text) := by
      simp only [Plan.refresh, read settled, read' settled', refused, bind, Except.bind]
    exact planOfProductWith_of_error fault

/-- Whatever is not in order has a first fault. -/
theorem exists_firstFault (words : String) (h : ¬product.InOrder) :
    ∃ detail, FirstFault words product detail := by
  by_cases limits : Legible ReadsLimits (product.metadata.get? "limits")
  · by_cases features : Legible ReadsFeatures (product.metadata.get? "features")
    · have days : ¬Legible ReadsDays (product.metadata.get? "free_trial_days") :=
        fun days => h ⟨limits, features, days⟩
      obtain ⟨text, unread⟩ := Classical.not_forall.mp days
      obtain ⟨entry, unreadable⟩ := Classical.not_imp.mp unread
      exact ⟨_, .freeTrialDays text limits features entry (not_exists.mp unreadable)⟩
    · exact ⟨_, .features limits features⟩
  · exact ⟨_, .limits limits⟩

theorem planOfProductWith_eq_error_iff {e : BillingError} :
    planOfProductWith words plan product prices = .error e ↔
      ∃ detail, FirstFault words product detail ∧ e = .invalidProviderData detail := by
  constructor
  · intro refused
    have disorder : ¬product.InOrder := by
      intro order
      obtain ⟨new, made⟩ := exists_planOfProductWith_iff.mpr order
      rw [refused] at made
      cases made
    obtain ⟨detail, fault⟩ := exists_firstFault words disorder
    have told := refused.symm.trans (planOfProductWith_of_fault fault)
    exact ⟨detail, fault, Except.error.inj told⟩
  · rintro ⟨detail, fault, rfl⟩
    exact planOfProductWith_of_fault fault

/-! ## Product events -/

/-- A product event that was applied finds nothing to change when it comes again, if nobody wrote
to the store in between and the provider shows the same product and prices. -/
theorem World.run_applyProduct_again {e : ProductEvent} {outcome : Outcome}
    {w u v : World} (sound : w.store.Sound) (pool : w.poolClosed = false)
    (applied : w.run (Reconcile.applyProduct e) = (.ok outcome, u))
    (undisturbed : v.store = u.store) (calm : v.Open False)
    (shown : v.provider.offer e.productId = w.provider.offer e.productId) :
    ∃ x, v.run (Reconcile.applyProduct e) = (.ok .unchanged, x) ∧ x.store = v.store := by
  have first := run_gives (Reconcile.apply (.product e)) (open_of_pool pool)
  have applied : w.run (Reconcile.apply (.product e)) = (.ok outcome, u) := applied
  rw [applied] at first
  obtain ⟨id, first⟩ := Reconcile.settle_of_gives sound first
  have settled : Delivery.settle w.store w.now w.provider id (.product e) = .ok v.store := by
    have first : Reconcile.settle w.store w.now w.provider id (.product e) =
      .ok (outcome, v.store) := undisturbed ▸ first
    rw [Reconcile.settle_delivered, first]
    rfl
  have second := run_gives (Reconcile.applyProduct e) calm
  rcases Reconcile.gives_applyProduct second with second | ⟨fails, -⟩
  · have offer : v.scene.provider.offer e.productId = w.provider.offer e.productId := shown
    have again := Reconcile.settle_product_again sound settled
    have store : v.scene.store = v.store := rfl
    rw [offer, store, again] at second
    obtain ⟨answer, left⟩ := Prod.mk.inj second
    exact ⟨_, Prod.ext answer rfl, left⟩
  · exact fails.elim

/-- Bringing a plan up to date succeeds exactly when the product is in order, and is refused for
the first fault otherwise. What comes of it is told field by field; it comes of itself under the
same product and prices, and so the same product event changes nothing when it comes again. -/
theorem refresh_exact :
    (∀ (words : String) (plan : Plan) (product : Product) (prices : List Price),
      ((∃ new, planOfProductWith words plan product prices = .ok new) ↔ product.InOrder) ∧
        (∀ e, planOfProductWith words plan product prices = .error e ↔
          ∃ detail, FirstFault words product detail ∧ e = .invalidProviderData detail) ∧
        (∀ new, planOfProductWith words plan product prices = .ok new ↔
          Refreshed plan product prices new) ∧
        ∀ new, planOfProductWith words plan product prices = .ok new →
          planOfProductWith words new product prices = .ok new) ∧
      ∀ (e : ProductEvent) (outcome : Outcome) (w u v : World), w.store.Sound →
        w.poolClosed = false → w.run (Reconcile.applyProduct e) = (.ok outcome, u) →
        v.store = u.store → v.Open False →
        v.provider.offer e.productId = w.provider.offer e.productId →
        ∃ x, v.run (Reconcile.applyProduct e) = (.ok .unchanged, x) ∧ x.store = v.store := by
  refine ⟨fun words plan product prices => ?_, fun e outcome w u v => ?_⟩
  · exact ⟨exists_planOfProductWith_iff, fun e => planOfProductWith_eq_error_iff,
      fun new => planOfProductWith_eq_ok_iff, fun new => planOfProductWith_again⟩
  · exact World.run_applyProduct_again

/-- A product that has limits and features in its metadata and offers two weeks on trial, and the
third of its prices is the first that is asked for a month. -/
theorem professional_again :
    let product : Product := ⟨"prod_pro", "Professional", true,
      .ofList [("limits", " \x7b\"maxUsers\":-1, \"maxProcesses\":25\x7d"),
        ("features", "[false,true,true,false,false,false,false]"), ("free_trial_days", " +14 ")]⟩
    let prices : List Price := [⟨"price_1", false, some .monthly, some 900⟩,
      ⟨"price_2", true, some .monthly, none⟩, ⟨"price_3", true, some .monthly, some 1900⟩]
    let plan : Plan := { (default : Plan) with
      name := "Pro"
      productId := "prod_pro"
      limits := { PlanLimits.none with maxDrafts := 3 } }
    let new : Plan := { plan with
      name := "Professional"
      monthlyPriceCents := some 1900
      freeTrialDays := 14
      limits := { PlanLimits.none with maxProcesses := 25, maxUsers := -1 }
      features := { PlanFeatures.none with overwrite := true, weighted := true } }
    let w := { World.sample with provider := World.sample.provider.setProduct product prices }
    let first := w.run (Reconcile.applyProduct ⟨"prod_pro"⟩)
    planOfProduct plan product prices = .ok new ∧ planOfProduct new product prices = .ok new ∧
      first.1 = .ok .updated ∧
      ∃ x, first.2.run (Reconcile.applyProduct ⟨"prod_pro"⟩) = (.ok .unchanged, x) ∧
        x.store = first.2.store := by
  intro product prices plan new w first
  have made : planOfProduct plan product prices = .ok new := by decide +kernel
  have applied : first.1 = .ok .updated := by decide +kernel
  have shown : first.2.provider.offer "prod_pro" = w.provider.offer "prod_pro" := by
    decide +kernel
  have calm : first.2.Calm :=
    World.run_keeps World.Calm (fun u c hu => hu.answer c) (w := w) _ ⟨rfl, rfl, rfl, rfl⟩
  have again := (refresh_exact.1 "" plan product prices).2.2.2 new made
  refine ⟨made, again, applied, ?_⟩
  exact refresh_exact.2 ⟨"prod_pro"⟩ .updated w first.2 first.2 Store.sample_sound rfl
    (Prod.ext applied rfl) rfl ⟨calm.pool, Or.inr calm.store⟩ shown

end TenantBilling
