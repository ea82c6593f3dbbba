import TenantBilling.Proofs.Behaviours
import TenantBilling.Proofs.Commutation
import TenantBilling.Proofs.ExactlyOnce

/-! Best-effort calls to the provider. Handling a subscription asks for its customer at most, and
tells the customer's new metadata; of all that comes back only the email is kept. So whatever is at
the other end of these calls, a delivery answers the same and leaves the same, the email of its
organization apart. -/

namespace TenantBilling

open Calendar

/-! ## What handling a subscription hears -/

namespace Reconcile
open TenantBilling.Action
variable {α : Type} {c : CustomerRef}

/-- Asking for the customer, one hears what is said of the customer, and goes on from that. -/
theorem resolveCustomer_knowsOnly {f : Option Customer → Action α} (hf : ∀ x, (f x).Careless) :
    (resolveCustomer c >>= f).KnowsOnly c := by
  intro σ τ b b' s s' same
  unfold Behaviour.resolve at same
  unfold resolveCustomer
  cases given : c.metadata with
  | some metadata => exact hf _ b b' s s'
  | none =>
    rw [given] at same
    have heard {σ : Type} (b : Behaviour σ) (s : σ) :
        (ExceptT.lift (Proc.call (.provider (.customer c.id)) fun a => .done a.toOption) >>= f :
          Action α).run.heard b s =
          (f (b s (.customer c.id)).1.toOption).run.heard b (b s (.customer c.id)).2 := rfl
    dsimp only at same ⊢
    rw [heard, heard, ← same]
    exact hf _ b b' _ _

theorem writeSubscription_local (org : Organization) (subscription : Subscription) :
    (writeSubscription org subscription).Within Call.IsLocal := by
  unfold writeSubscription
  split
  · exact within_pure _
  · exact (within_store _ trivial).bind fun _ => within_pure _

theorem fallback_local (org : Organization) (subscriptionId : String) :
    (fallback org subscriptionId).Within Call.IsLocal := by
  unfold fallback
  dsimp only
  split
  · exact within_pure _
  · refine (within_store _ trivial).bind fun _ => (within_orFail _ _).bind fun plan => ?_
    split
    · exact within_pure _
    · exact (within_now trivial).bind fun _ => (within_store _ trivial).bind fun _ => within_pure _

theorem applyLive_knowsOnly (org : Organization) (e : SubscriptionEvent) :
    (applyLive org e).KnowsOnly e.customer := by
  refine knowsOnly_local_bind (within_store _ trivial) fun found =>
    knowsOnly_local_bind (within_orFail found _) fun plan =>
      resolveCustomer_knowsOnly fun customer => careless_of_local ?_
  refine (writeSubscription_local org _).bind fun outcome => ?_
  split
  · exact Within.bind (Proc.Within.mono Call.IsQuery.isLocal (Usage.ensureSnapshot_within _))
      fun _ => within_pure _
  · exact within_pure _

theorem applySubscription_knowsOnly (e : SubscriptionEvent) :
    (applySubscription e).KnowsOnly e.customer := by
  refine knowsOnly_local_bind
    (Proc.Within.mono Call.IsQuery.isLocal (Usage.loadOrganization_within e.address)) fun org => ?_
  cases effectOf e.status with
  | live => exact applyLive_knowsOnly org e
  | ended => exact knowsOnly_of_local ((fallback_local org _).bind fun _ => within_pure _)
  | nothing => exact knowsOnly_of_local (within_pure _)

/-- Nobody hears what becomes of follow-up work. -/
theorem runFollowUp_careless (followUp : Option CustomerBackfill) :
    (runFollowUp followUp).Careless := by
  intro σ τ b b' s s'
  cases followUp <;> rfl

end Reconcile

namespace Delivery
open TenantBilling.Action
variable {event : Event} {e : SubscriptionEvent}

theorem isMarked_local (id : String) : (ledger (.isMarked id)).Within Call.IsLocal :=
  ⟨trivial, fun _ => trivial⟩

theorem tryMark_local (n : Nat) (id : String) : (tryMark n id).Within Call.IsLocal := by
  induction n with
  | zero => trivial
  | succ n ih =>
    refine ⟨trivial, fun a => ?_⟩
    cases a with
    | ok => trivial
    | error => exact ih

theorem dispatch_knowsOnly (kind : event.kind = .subscription e) :
    (dispatch event).KnowsOnly e.customer := by
  unfold dispatch
  rw [kind]
  refine KnowsOnly.withTenant _ (knowsOnly_local_bind (isMarked_local event.id) fun known => ?_)
  split
  · exact knowsOnly_of_local (within_pure _)
  · rw [map_eq_pure_bind]
    exact ((Reconcile.applySubscription_knowsOnly e).bind fun _ =>
      careless_of_local (within_pure _)).bind fun _ => careless_of_local (within_pure _)

/-- All that handling a subscription hears of the provider is what is said of its customer. -/
theorem handle_knowsOnly (kind : event.kind = .subscription e) :
    (handle event).KnowsOnly e.customer := by
  refine knowsOnly_local_bind (isMarked_local event.id) fun known => ?_
  split
  · exact knowsOnly_of_local (within_pure _)
  · rw [if_neg (by rw [kind]; exact nofun)]
    refine (dispatch_knowsOnly kind).bind fun done => ?_
    cases done with
    | none => exact careless_of_local (within_pure _)
    | some followUp =>
      have follow := careless_lift (Reconcile.runFollowUp_careless followUp)
      have marks : (mark event.id).Within Call.IsLocal := within_lift (tryMark_local _ _)
      exact follow.bind fun _ => careless_of_local (marks.bind fun _ => within_pure _)

end Delivery

/-! ## Stores that differ in an email -/

/-- What a subscription says, its email apart. Dates are compared as instants when a record is
written, so one that is not written may spell the same dates in another way. -/
structure Terms where
  planId : Int
  providerId : String
  period : BillingPeriod
  start : Option Int
  renewal : Option Int
  lastPayment : Option Int
  active : Bool

/-- The terms of a subscription, its dates as instants. -/
def Subscription.terms (s : Subscription) : Terms where
  planId := s.planId
  providerId := s.providerId
  period := s.period
  start := s.startDate.map DateTime.instant
  renewal := s.renewalDate.map DateTime.instant
  lastPayment := s.lastPaymentDate.map DateTime.instant
  active := s.active

theorem instant_of_sameMoment {a b : Option DateTime} (h : sameMoment a b = true) :
    a.map DateTime.instant = b.map DateTime.instant := by
  cases a with
  | none =>
    cases b with
    | none => rfl
    | some b => cases h
  | some a =>
    cases b with
    | none => cases h
    | some b => exact congrArg some ((DateTime.same_iff a b).mp h)

/-- Records that say the same are on the same terms. -/
theorem Subscription.terms_of_agrees {a b : Subscription} (h : a.agrees b = true) :
    a.terms = b.terms := by
  simp only [agrees, Bool.and_eq_true, beq_iff_eq] at h
  obtain ⟨⟨⟨⟨⟨⟨⟨planId, providerId⟩, period⟩, start⟩, renewal⟩, payment⟩, active⟩, -⟩ := h
  simp only [terms, planId, providerId, period, active, instant_of_sameMoment start,
    instant_of_sameMoment renewal, instant_of_sameMoment payment]

/-- An organization without the email of its subscription. -/
def Organization.butEmail (org : Organization) : String × Terms × Counters :=
  (org.address, org.subscription.terms, org.counters)

/-- The email that is stored for an organization. -/
def Store.emailOf? (s : Store) (address : String) : Option String :=
  (s.organization? address).map (·.subscription.email)

/-- Two stores that say the same, but for the ids of snapshots and the email of one organization. -/
structure Store.AlikeButEmail (address : String) (s t : Store) : Prop where
  others : ∀ a, a ≠ address → t.organization? a = s.organization? a
  tenant : (t.organization? address).map Organization.butEmail =
    (s.organization? address).map Organization.butEmail
  plans : t.plans = s.plans
  snapshots : ∀ k, (t.snapshots.get? k).map Snapshot.content =
    (s.snapshots.get? k).map Snapshot.content

theorem Store.alikeButEmail_refl (address : String) (s : Store) : s.AlikeButEmail address s :=
  ⟨fun _ _ => rfl, rfl, rfl, fun _ => rfl⟩

namespace Delivery
variable {s t t' : Store} {now : DateTime} {p p' : Provider} {e : SubscriptionEvent}

/-- Whatever is said of a customer, the record comes out on the same terms. -/
theorem amended_terms (s : Store) (now : DateTime) (p p' : Provider) (e : SubscriptionEvent)
    (sub : Subscription) : (amended s now p sub (.subscription e)).terms =
      (amended s now p' sub (.subscription e)).terms := by
  unfold amended
  dsimp only
  cases Reconcile.effectOf e.status with
  | live =>
    cases s.planOfProduct? e.productId with
    | none => rfl
    | some plan =>
      have terms (customer : Option Customer) :
          (if (Reconcile.liveSubscription e plan sub customer).agrees sub = true then sub
            else Reconcile.liveSubscription e plan sub customer).terms =
          (Reconcile.liveSubscription e plan sub none).terms := by
        split
        · rename_i agrees
          exact (Subscription.terms_of_agrees agrees).symm
        · rfl
      exact (terms _).trans (terms _).symm
  | ended => rfl
  | nothing => rfl

/-- A live subscription keeps the email when no other one is heard of. -/
theorem amended_email (live : Reconcile.effectOf e.status = .live)
    (silent : (p.resolve e.customer).bind (·.email) = none) (sub : Subscription) :
    (amended s now p sub (.subscription e)).email = sub.email := by
  simp only [amended, live]
  cases s.planOfProduct? e.productId with
  | none => rfl
  | some plan =>
    dsimp only
    split
    · rfl
    · simp only [Reconcile.liveSubscription, silent, Option.getD_none]

/-- The same subscription changes a store alike, the email apart, whatever is said of its
customer. -/
theorem Change.alikeButEmail (h : Change s now p (.subscription e) t)
    (h' : Change s now p' (.subscription e) t') : t.AlikeButEmail e.address t' where
  others a other := by
    have elsewhere : ¬(EventKind.subscription e).address? = some a :=
      fun same => other (Option.some.inj same).symm
    simp only [h'.organizations, h.organizations, if_neg elsewhere]
  tenant := by
    have here : (EventKind.subscription e).address? = some e.address := rfl
    rw [h'.organizations, h.organizations, Option.map_map, Option.map_map]
    congr 1
    funext org
    simp only [Function.comp_apply, if_pos here, Organization.butEmail,
      amended_terms s now p p' e org.subscription]
  plans := h'.plans.trans h.plans.symm
  snapshots k := (h'.content k).trans (h.content k).symm

theorem Change.email (h : Change s now p (.subscription e) t)
    (live : Reconcile.effectOf e.status = .live)
    (silent : (p.resolve e.customer).bind (·.email) = none) :
    t.emailOf? e.address = s.emailOf? e.address := by
  have here : (EventKind.subscription e).address? = some e.address := rfl
  unfold Store.emailOf?
  rw [h.organizations, Option.map_map]
  congr 1
  funext org
  simp only [Function.comp_apply, if_pos here, amended_email live silent]

end Delivery

/-! ## Deliveries -/

/-- The provider that says of a customer what is said here, and can always be asked. -/
def Provider.saying (p : Provider) (c : CustomerRef) (said : Option Customer) : Provider :=
  { p with
    customers := match said with
      | none => ∅
      | some customer => (∅ : Table String Customer).insert c.id customer
    outages := .none }

/-- Whatever somebody says of the customer of an event, a provider can say. -/
theorem Provider.resolve_saying {σ : Type} (p : Provider) (c : CustomerRef) (b : Behaviour σ)
    (s : σ) : (p.saying c (b.resolve s c)).resolve c = b.resolve s c := by
  rw [resolve_of_calm rfl]
  unfold knows
  cases given : c.metadata with
  | some metadata => simp only [Behaviour.resolve, given]
  | none =>
    dsimp only [saying]
    cases b.resolve s c with
    | none => rfl
    | some customer => exact Table.get?_insert_self _ _ _

namespace World
open Delivery
variable {w : World} {event : Event} {e : SubscriptionEvent} {σ : Type}

/-- What the delivery of an event comes to when neither store nor ledger fails: nothing if it was
marked, or else what it comes to with some provider that can be asked. -/
inductive Comes (w : World) (event : Event) (p : Provider) :
    Except Failure DeliveryOutcome × World → Prop
  | known {x : Except Failure DeliveryOutcome × World} (marked : w.hasMark event.id = true)
    (answer : x.1 = .ok .alreadyProcessed) (store : x.2.store = w.store)
    (ledger : x.2.ledger.ledger = w.ledger.ledger) : Comes w event p x
  | new {x : Except Failure DeliveryOutcome × World} (unmarked : w.hasMark event.id = false)
    (answer : x.1 = answerOf w.store p event.kind)
    (change : Change w.store w.now p event.kind x.2.store)
    (ledger : x.2.ledger.ledger = noted w.store p event w.clock w.ledger.ledger) :
    Comes w event p x

theorem Smooth.comes (smooth : w.Smooth) (sound : w.store.Sound) :
    Comes w event w.provider (w.run (handle event)) := by
  cases marked : w.hasMark event.id with
  | true =>
    have reliable : w.Reliable w.ledger.ledger.ttl := ⟨smooth.pool, smooth.ledger, rfl⟩
    rw [reliable.handle_of_isMarked marked]
    exact .known marked rfl rfl rfl
  | false =>
    have delivered := smooth.delivered smooth smooth.steady rfl sound marked
    exact .new marked delivered.answer delivered.change delivered.ledger

/-- The same world, which gives out other ids. -/
def idsFrom (w : World) (n : Nat) : World := { w with nextId := n }

/-- Whoever answers, and whatever ids are given out, a delivery comes to what it comes to with a
provider that says the same of the customer. -/
theorem runWith_comes (calm : w.Calm) (sound : w.store.Sound)
    (kind : event.kind = .subscription e) (b : Behaviour σ) (s : σ) (n : Nat) :
    ∃ p, p.resolve e.customer = b.resolve s e.customer ∧
      Comes w event p ((w.idsFrom n).runWith b s (handle event)) := by
  let v := w.idsFrom n
  let p := w.provider.saying e.customer (b.resolve s e.customer)
  have same : p.resolve e.customer = b.resolve s e.customer := w.provider.resolve_saying _ b s
  have smooth : { v with provider := p }.Smooth := ⟨⟨calm.pool, calm.store, calm.ledger⟩, rfl⟩
  have comes := @Smooth.comes _ event smooth sound
  have heard : v.runWith Provider.answer p (handle event) = v.runWith b s (handle event) :=
    congrArg (runProc · v) (handle_knowsOnly kind Provider.answer b p s same)
  obtain ⟨q, run⟩ := run_withProvider (handle event) v p ⟨rfl, rfl⟩
  rw [run, heard] at comes
  refine ⟨p, same, ?_⟩
  cases comes with
  | known marked answer store ledger => exact .known marked answer store ledger
  | new unmarked answer change ledger => exact .new unmarked answer change ledger

/-- Two ways in which the delivery of a subscription can go differ in an email at most. -/
theorem Comes.alike {p p' : Provider} {x y : Except Failure DeliveryOutcome × World}
    (kind : event.kind = .subscription e) (h : Comes w event p x) (h' : Comes w event p' y) :
    y.1 = x.1 ∧ x.2.store.AlikeButEmail e.address y.2.store ∧
      y.2.ledger.ledger = x.2.ledger.ledger := by
  -- refusals are about the store, as long as the provider is not asked for a catalog
  have refusal : refusal? w.store p' event.kind = refusal? w.store p event.kind := by
    rw [kind]
    rfl
  cases h with
  | known marked answer store ledger =>
    cases h' with
    | known _ answer' store' ledger' =>
      rw [store, store']
      exact ⟨answer'.trans answer.symm, Store.alikeButEmail_refl _ _, ledger'.trans ledger.symm⟩
    | new unmarked => cases marked.symm.trans unmarked
  | new unmarked answer change ledger =>
    cases h' with
    | known marked => cases marked.symm.trans unmarked
    | new _ answer' change' ledger' =>
      rw [kind] at change change'
      refine ⟨?_, change.alikeButEmail change', ?_⟩
      · rw [answer', answer, answerOf, answerOf, refusal]
      · rw [ledger', ledger, noted, noted, refusal]

/-- When neither store nor ledger fails, two deliveries of a subscription answer the same and leave
the same, whoever answers the calls to the provider and however, the email of its organization
apart. That email stays when a subscription is live and nobody tells another one of its customer.
The world's own provider is one of those who may answer. -/
theorem provider_cannot_interfere (calm : w.Calm) (sound : w.store.Sound)
    (kind : event.kind = .subscription e) :
    (∀ {σ τ : Type} (b : Behaviour σ) (b' : Behaviour τ) (s : σ) (s' : τ) (n n' : Nat),
      let x := (w.idsFrom n).runWith b s (handle event)
      let y := (w.idsFrom n').runWith b' s' (handle event)
      y.1 = x.1 ∧ x.2.store.AlikeButEmail e.address y.2.store ∧
        y.2.ledger.ledger = x.2.ledger.ledger) ∧
    (∀ {σ : Type} (b : Behaviour σ) (s : σ) (n : Nat), e.status = .active ∨ e.status = .trialing →
      e.customer.metadata = none →
      (∀ customer, (b s (.customer e.customer.id)).1 = .ok customer → customer.email = none) →
      let x := (w.idsFrom n).runWith b s (handle event)
      x.2.store.emailOf? e.address = w.store.emailOf? e.address) ∧
    ∃ q, w.run (handle event) =
      let x := w.runWith Provider.answer w.provider (handle event)
      (x.1, { x.2 with provider := q }) := by
  refine ⟨fun b b' s s' n n' => ?_, fun b s n status byId silent => ?_, ?_⟩
  · obtain ⟨p, -, comes⟩ := runWith_comes calm sound kind b s n
    obtain ⟨p', -, comes'⟩ := runWith_comes calm sound kind b' s' n'
    exact comes.alike kind comes'
  · obtain ⟨p, said, comes⟩ := runWith_comes calm sound kind b s n
    have live : Reconcile.effectOf e.status = .live := Reconcile.effectOf_eq_live_iff.mpr status
    have nothing : (p.resolve e.customer).bind (·.email) = none := by
      rw [said]
      simp only [Behaviour.resolve, byId]
      cases heard : (b s (.customer e.customer.id)).1 with
      | ok customer => exact silent customer heard
      | error => rfl
    cases comes with
    | known _ _ store => exact congrArg (·.emailOf? e.address) store
    | new _ _ change =>
      rw [kind] at change
      exact change.email live nothing
  · exact run_withProvider (handle event) w w.provider ⟨rfl, rfl⟩

/-- Nobody answers, but for the time it takes. -/
def mute : Behaviour Unit := fun _ c => (.error (.providerTimeout c.op.name), ())

/-- Every customer has an email of the number of the call, and everything else is refused. -/
def talkative : Behaviour Nat := fun n c =>
  match c with
  | .customer id => (.ok ⟨id, some ("billing" ++ toString n), ∅⟩, n + 1)
  | c => (.error (Provider.noCustomer c.subject), n + 1)

/-- The organization subscribes for a year with a customer known by id, which the provider tells
nothing of or an email. -/
theorem subscribed_by_id :
    let event : Event := ⟨"evt_2", "customer.subscription.created", 0, .subscription
      { sampleSubscription with customer := ⟨"cus_1", none, none⟩ }⟩
    let x := (sample.idsFrom 1).runWith mute () (handle event)
    let y := (sample.idsFrom 7).runWith talkative 3 (handle event)
    (y.1 = x.1 ∧ x.2.store.AlikeButEmail "0xa1" y.2.store ∧
      y.2.ledger.ledger = x.2.ledger.ledger) ∧
    x.2.store.emailOf? "0xa1" = sample.store.emailOf? "0xa1" ∧ x.1 = .ok .processed ∧
      y.2.store.emailOf? "0xa1" = some "billing3" := by
  intro event
  have calm : sample.Calm := ⟨rfl, rfl, rfl, rfl⟩
  obtain ⟨any, silent, -⟩ :=
    @provider_cannot_interfere sample event _ calm Store.sample_sound rfl
  refine ⟨any mute talkative () 3 1 7, silent mute () 1 (Or.inl rfl) rfl nofun, ?_⟩
  decide +kernel

end World

end TenantBilling
