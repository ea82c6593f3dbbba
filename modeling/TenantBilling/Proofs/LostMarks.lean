import TenantBilling.Proofs.Repetition

/-! Marks that are lost. When every attempt to mark an event fails, its next delivery applies
it again. A run in which marks are lost and the run in which they were made are compared step by
step. They leave the same records if no event contests a lost one before it is delivered again:
its tenant's record still heeds it then. If one does, the records can differ: an event of the
past is applied over what came after it. -/

namespace TenantBilling

open Calendar

/-- A delivery, its time, and whether every attempt to mark its event fails. -/
structure Parcel where
  event : Event
  clock : DateTime
  lost : Bool
deriving DecidableEq

namespace Parcel

/-- The same delivery with its mark made. -/
def kept (p : Parcel) : Parcel := { p with lost := false }

/-- The failures that the ledger is going to have. -/
def outages (p : Parcel) : Outages LedgerOp :=
  if p.lost then Outages.none.failNext .mark Delivery.markAttempts else .none

theorem planned_outages (p : Parcel) : p.outages.planned .isMarked = [] := by
  unfold outages
  split <;> rfl

theorem allFail_outages (p : Parcel) :
    p.outages.allFail .mark Delivery.markAttempts = p.lost := by
  unfold outages
  cases p.lost <;> rfl

/-- If an event is delivered again, none of the deliveries before that contests it. -/
def Uncontested (event : Event) (later : List Parcel) : Prop :=
  event ∈ later.map (·.event) →
    ∀ p ∈ later.takeWhile (·.event != event), p.event.kind.contests event.kind = false

instance (event : Event) (later : List Parcel) : Decidable (Uncontested event later) :=
  inferInstanceAs (Decidable (_ → _))

/-- What makes it harmless to lose the mark of a delivery: the deliveries of its event that come
later come while the mark would have counted, and find the event uncontested. -/
structure Harmless (ttl : Int) (p : Parcel) (later : List Parcel) : Prop where
  inTime : ∀ q ∈ later, q.event = p.event →
    p.clock ≤ q.clock ∧ q.clock.instant - p.clock.instant < ttl
  uncontested : Uncontested p.event later

theorem Uncontested.tail {event : Event} {p : Parcel} {later : List Parcel}
    (h : Uncontested event (p :: later)) (hp : p.event ≠ event)
    (again : event ∈ later.map (·.event)) :
    p.event.kind.contests event.kind = false ∧ Uncontested event later := by
  have hwhile : (p :: later).takeWhile (·.event != event) =
      p :: later.takeWhile (·.event != event) :=
    List.takeWhile_cons_of_pos (bne_iff_ne.mpr hp)
  have hall := h (List.mem_cons_of_mem _ again)
  rw [hwhile] at hall
  exact ⟨hall p List.mem_cons_self, fun _ q hq => hall q (List.mem_cons_of_mem _ hq)⟩

end Parcel

namespace World
open Delivery

/-- The world as a delivery finds it. -/
def meeting (w : World) (p : Parcel) : World :=
  { w with clock := p.clock, ledger := { w.ledger with outages := p.outages } }

def take (w : World) (p : Parcel) : World := ((w.meeting p).run (handle p.event)).2

def takeAll (w : World) (ps : List Parcel) : World := ps.foldl take w

/-- A world in which nothing but marks fails, and which says the same as another one. -/
structure Steady (w u : World) : Prop where
  pool : u.poolClosed = false
  store : u.desk.outages = .none
  script : u.ledger.script = []
  provider : u.provider.outages = .none
  wall : u.wall = w.wall
  catalog : u.provider.catalog = w.provider.catalog
  customers : ∀ id, (u.provider.customers.get? id).map Customer.face =
    (w.provider.customers.get? id).map Customer.face

variable {w u v u' v' : World} {p : Parcel} {ps : List Parcel} {ttl : Int}

theorem Smooth.steady (h : w.Smooth) : w.Steady w :=
  ⟨h.pool, h.store, h.ledger.script, h.provider, rfl, rfl, fun _ => rfl⟩

theorem Steady.meeting (h : w.Steady u) (p : Parcel) : w.Steady (u.meeting p) :=
  ⟨h.pool, h.store, h.script, h.provider, h.wall, h.catalog, h.customers⟩

theorem Steady.answer (h : w.Steady u) (c : Call) : w.Steady (u.answer c).2 := by
  cases c with
  | store c =>
    rw [answer_store h.pool]
    refine ⟨h.pool, ?_, h.script, h.provider, h.wall, h.catalog, h.customers⟩
    simp only [StoreDesk.answer, h.store, Outages.strike_none]
    rfl
  | ledger c =>
    rw [answer_ledger h.pool]
    exact ⟨h.pool, h.store, LedgerDesk.script_answer h.script _ c, h.provider, h.wall, h.catalog,
      h.customers⟩
  | provider c =>
    obtain ⟨hanswer, hcalm⟩ := Provider.answer_of_calm h.provider c
    have hworld : (u.answer (.provider c)).2 =
        { u with provider := ((u.provider.logged c).reply c).2 } := by
      rw [← hanswer]
      rfl
    rw [hworld]
    by_cases hc : Call.IsReconciling (.provider c)
    · rw [Provider.reply_lookup _ hc]
      exact ⟨h.pool, h.store, h.script, hcalm, h.wall, h.catalog, h.customers⟩
    · cases c with
      | updateMetadata id metadata =>
        refine ⟨h.pool, h.store, h.script, ?_, h.wall, ?_, fun other =>
          (seen_updateMetadata u id metadata other).trans (h.customers other)⟩
        · simp only [Provider.reply]
          split <;> exact hcalm
        · simp only [Provider.reply]
          split <;> exact h.catalog
      | _ => exact absurd trivial hc
  | _ => exact ⟨h.pool, h.store, h.script, h.provider, h.wall, h.catalog, h.customers⟩

theorem Steady.take (h : w.Steady u) (p : Parcel) : w.Steady (u.take p) :=
  run_keeps w.Steady (fun _ c hv => hv.answer c) (handle p.event) (h.meeting p)

/-- A provider that says the same makes an event come to the same. -/
theorem Steady.settle (h : w.Steady u) (hw : w.Steady w) (s : Store) (now : DateTime) (id : Uuid)
    (kind : EventKind) :
    Delivery.settle s now u.provider id kind = Delivery.settle s now w.provider id kind := by
  refine settle_congr (fun c => ?_) fun productId => ?_
  · rw [Provider.resolve_of_calm h.provider, Provider.resolve_of_calm hw.provider]
    unfold Provider.knows
    split
    · rfl
    · exact h.customers c.id
  · rw [Provider.offer_of_calm h.provider, Provider.offer_of_calm hw.provider]
    unfold Provider.sells
    rw [h.catalog]

/-- The time at which an event is settled. -/
def nowAt (w : World) (p : Parcel) : DateTime := w.wall.getD p.clock

/-- What comes of a delivery. -/
inductive Taken (w u : World) (p : Parcel) (v : World) : Prop
  | skipped (known : u.ledger.ledger.isMarked p.clock p.event.id = true)
    (store : v.store = u.store) (ledger : v.ledger.ledger = u.ledger.ledger)
  | settled {id} (new : u.ledger.ledger.isMarked p.clock p.event.id = false)
    (done : Delivery.settle u.store (w.nowAt p) w.provider id p.event.kind = .ok v.store)
    (ledger : v.ledger.ledger =
      if p.lost then u.ledger.ledger else u.ledger.ledger.mark p.clock p.event.id)
  | refused {id b} (new : u.ledger.ledger.isMarked p.clock p.event.id = false)
    (error : Delivery.settle u.store (w.nowAt p) w.provider id p.event.kind = .error b)
    (store : v.store = u.store) (ledger : v.ledger.ledger = u.ledger.ledger)

/-- While nothing but marks fails, a delivery is told whether its event is marked. -/
theorem Steady.asked (h : w.Steady u) (p : Parcel) :
    (u.meeting p).ledger.answer p.clock (.isMarked p.event.id) =
      (.ok (u.ledger.ledger.isMarked p.clock p.event.id), (u.meeting p).ledger) :=
  LedgerDesk.answer_isMarked_of_planned (h.meeting p).script p.planned_outages p.clock p.event.id

theorem Steady.take_of_isMarked (h : w.Steady u)
    (known : u.ledger.ledger.isMarked p.clock p.event.id = true) :
    u.take p = u.meeting p := by
  have asked := h.asked p
  rw [known] at asked
  have hanswer : (u.meeting p).answer (.ledger (.isMarked p.event.id)) =
      (.ok true, u.meeting p) := by
    rw [answer_ledger (h.meeting p).pool]
    exact congrArg (fun x => (x.1, { u.meeting p with ledger := x.2 })) asked
  have hrun : (u.meeting p).run (handle p.event) = (.ok .alreadyProcessed, u.meeting p) := by
    unfold handle
    rw [run_bind, run_ledger, hanswer]
    rfl
  exact congrArg Prod.snd hrun

theorem Steady.admits (h : w.Steady u)
    (new : u.ledger.ledger.isMarked p.clock p.event.id = false) :
    (u.meeting p).scene.ledger.Admits p.clock p.event.id := by
  have asked := h.asked p
  rw [new] at asked
  have hledger : (u.meeting p).scene.ledger = (u.meeting p).ledger := rfl
  unfold LedgerDesk.Admits
  rw [hledger, asked]
  exact ⟨rfl, congrArg Prod.fst asked⟩

theorem Steady.taken (h : w.Steady u) (hw : w.Steady w) (hs : u.store.Sound) (p : Parcel) :
    Taken w u p (u.take p) := by
  cases known : u.ledger.ledger.isMarked p.clock p.event.id with
  | true =>
    rw [h.take_of_isMarked known]
    exact .skipped known rfl rfl
  | false =>
    have hopen : (u.meeting p).Open False := ⟨(h.meeting p).pool, Or.inr (h.meeting p).store⟩
    have handled := gives_handle (run_gives (handle p.event) hopen)
    have hnow : (u.meeting p).scene.now = w.nowAt p := congrArg (Option.getD · p.clock) h.wall
    have hsame (id : Uuid) : Delivery.settle (u.meeting p).scene.store (u.meeting p).scene.now
        (u.meeting p).scene.provider id p.event.kind =
        Delivery.settle u.store (w.nowAt p) w.provider id p.event.kind := by
      rw [hnow]
      exact h.settle hw u.store (w.nowAt p) id p.event.kind
    have hfail : (u.meeting p).scene.ledger.outages.allFail .mark markAttempts = p.lost :=
      p.allFail_outages
    obtain ⟨id, ⟨done, -, ledger⟩ | ⟨b, error, -, same, frame⟩⟩ :=
      handled.calm hs (h.admits known)
    · unfold marked at ledger
      rw [hfail] at ledger
      rw [hsame] at done
      exact .settled known done ledger
    · rw [hsame] at error
      exact .refused known error same frame.ledger

/-! ## What a delivery keeps -/

theorem Taken.sound (h : Taken w u p v) (hs : u.store.Sound) : v.store.Sound := by
  cases h with
  | skipped _ store => exact store ▸ hs
  | settled _ done => exact (settle_keeps hs done).sound
  | refused _ _ store => exact store ▸ hs

theorem Taken.catalog (h : Taken w u p v) (hs : u.store.Sound) : u.store.SameCatalog v.store := by
  cases h with
  | skipped _ store => exact store ▸ .refl _
  | settled _ done => exact (settle_keeps hs done).catalog
  | refused _ _ store => exact store ▸ .refl _

theorem Taken.life (h : Taken w u p v) : v.ledger.ledger.ttl = u.ledger.ledger.ttl := by
  cases h with
  | skipped _ _ ledger => rw [ledger]
  | settled _ _ ledger =>
    rw [ledger]
    split <;> rfl
  | refused _ _ _ ledger => rw [ledger]

/-- A delivery leaves the marks of all other events. -/
theorem Taken.others (h : Taken w u p v) {id : String} (hid : id ≠ p.event.id) :
    v.ledger.ledger.entries.get? id = u.ledger.ledger.entries.get? id := by
  cases h with
  | skipped _ _ ledger => rw [ledger]
  | settled _ _ ledger =>
    rw [ledger]
    split
    · rfl
    · exact Table.get?_insert_of_ne _ _ hid
  | refused _ _ _ ledger => rw [ledger]

/-- An event of no tenant leaves all records. -/
theorem Taken.organizations (h : Taken w u p v) (hs : u.store.Sound)
    (hk : p.event.kind.address? = none) : v.store.organizations = u.store.organizations := by
  cases h with
  | skipped _ store => rw [store]
  | settled _ done => exact settle_organizations hs hk done
  | refused _ _ store => rw [store]

/-- The record of the tenant of an event heeds the event. -/
def Heeded (w u : World) (kind : EventKind) : Prop :=
  ∃ address org, kind.address? = some address ∧ u.store.organization? address = some org ∧
    Heeds u.store w.provider org.subscription kind

/-- An event is heeded on while no other one comes that contests it. -/
theorem Heeded.take {kind : EventKind} (h : Heeded w u kind) (hs : u.store.Sound)
    (taken : Taken w u p v) (apart : p.event.kind.contests kind = false) : Heeded w v kind := by
  obtain ⟨address, org, hk, stored, heeds⟩ := h
  cases taken with
  | skipped _ store => exact ⟨address, org, hk, store ▸ stored, store ▸ heeds⟩
  | refused _ _ store => exact ⟨address, org, hk, store ▸ stored, store ▸ heeds⟩
  | settled _ done =>
    have keeps := settle_keeps hs done
    by_cases hp : p.event.kind.address? = some address
    · obtain ⟨org₁, org', stored₁, stored', amends⟩ := settle_amends hs hp done
      obtain rfl : org = org₁ := Option.some.inj (stored.symm.trans stored₁)
      refine ⟨address, org', hk, stored', ?_⟩
      exact (heeds.amended (hp.trans hk.symm) apart amends).transfer keeps.catalog hs keeps.sound
    · exact ⟨address, org, hk, (keeps.others address hp).trans stored,
        heeds.transfer keeps.catalog hs keeps.sound⟩

/-- An event that is settled is heeded. -/
theorem heeded_of_settle {now : DateTime} {id : Uuid} {address : String} {kind : EventKind}
    (hs : u.store.Sound) (hk : kind.address? = some address)
    (done : Delivery.settle u.store now w.provider id kind = .ok v.store) : Heeded w v kind := by
  obtain ⟨org, org', -, stored', amends⟩ := settle_amends hs hk done
  have keeps := settle_keeps hs done
  exact ⟨address, org', hk, stored', amends.heeds.transfer keeps.catalog hs keeps.sound⟩

/-! ## The run with lost marks and the run without -/

/-- What a world with lost marks, `u`, has in common with the one in which they were made. -/
structure Level (ttl : Int) (u v : World) : Prop where
  sound : u.store.Sound
  sound' : v.store.Sound
  catalog : u.store.SameCatalog v.store
  records : v.store.organizations = u.store.organizations
  life : u.ledger.ledger.ttl = ttl
  life' : v.ledger.ledger.ttl = ttl

/-- What the two worlds know of an event before some deliveries. -/
inductive Known (ttl : Int) (w : World) (ps : List Parcel) (event : Event) (u v : World) : Prop
  | alike (same : v.ledger.ledger.entries.get? event.id = u.ledger.ledger.entries.get? event.id)
  /-- Both have a mark that counts whenever the event is delivered. -/
  | noted {m m'} (lossy : u.ledger.ledger.entries.get? event.id = some m)
    (ideal : v.ledger.ledger.entries.get? event.id = some m')
    (counts : ∀ q ∈ ps, q.event = event →
      q.clock.instant - m.instant < ttl ∧ q.clock.instant - m'.instant < ttl)
  /-- The mark was lost, and the event is heeded until it is delivered again. -/
  | owed {m} (lossy : u.ledger.ledger.isMarked m event.id = false)
    (ideal : v.ledger.ledger.entries.get? event.id = some m)
    (inTime : ∀ q ∈ ps, q.event = event → m ≤ q.clock ∧ q.clock.instant - m.instant < ttl)
    (uncontested : Parcel.Uncontested event ps) (heeded : Heeded w u event.kind)

section Delivered
variable {event : Event}

/-- An event that both know alike does the same to the records of both. What is left of it is
known alike again, unless its mark is lost. -/
theorem Level.alike (level : Level ttl u v) (hu : Taken w u p u') (hv : Taken w v p.kept v')
    (tenant : p.event.kind.address?.isSome = true)
    (same : v.ledger.ledger.entries.get? p.event.id = u.ledger.ledger.entries.get? p.event.id)
    (harmless : p.lost = true → p.Harmless ttl ps) :
    v'.store.organizations = u'.store.organizations ∧ Known ttl w ps p.event u' v' := by
  have marked := Ledger.isMarked_congr p.clock (level.life'.trans level.life.symm) same
  have sameRecords (id id' : Uuid) :
      SameRecords (Delivery.settle u.store (w.nowAt p) w.provider id p.event.kind)
        (Delivery.settle v.store (w.nowAt p) w.provider id' p.event.kind) :=
    settle_sameRecords level.records level.catalog level.sound level.sound' tenant _ id id'
  cases hu with
  | skipped known store ledger =>
    cases hv with
    | skipped _ store' ledger' =>
      refine ⟨by rw [store, store', level.records], .alike ?_⟩
      rw [ledger, ledger']
      exact same
    | settled new => exact nomatch (marked.trans known).symm.trans new
    | refused new => exact nomatch (marked.trans known).symm.trans new
  | @refused id _ new error store ledger =>
    cases hv with
    | skipped known => exact nomatch (marked.trans new).symm.trans known
    | @settled id' _ done =>
      obtain ⟨b, error'⟩ := (sameRecords id id').of_error error
      exact nomatch done.symm.trans error'
    | refused _ _ store' ledger' =>
      refine ⟨by rw [store, store', level.records], .alike ?_⟩
      rw [ledger, ledger']
      exact same
  | @settled id new done ledger =>
    cases hv with
    | skipped known => exact nomatch (marked.trans new).symm.trans known
    | @refused id' _ _ error =>
      obtain ⟨t, done', -⟩ := (sameRecords id id').of_ok done
      exact nomatch error.symm.trans done'
    | @settled id' _ done' ledger' =>
      obtain ⟨t, hdone, records⟩ := (sameRecords id id').of_ok done
      obtain rfl : v'.store = t := Except.ok.inj (done'.symm.trans hdone)
      have ideal : v'.ledger.ledger = v.ledger.ledger.mark p.clock p.event.id := ledger'
      refine ⟨records, ?_⟩
      cases lost : p.lost with
      | false =>
        rw [lost, if_neg Bool.false_ne_true] at ledger
        refine .alike ?_
        rw [ideal, ledger]
        simp only [Ledger.mark, Table.get?_insert_self]
      | true =>
        -- only here the two begin to differ: what was done was marked in one of them
        rw [lost, if_pos rfl] at ledger
        obtain ⟨address, hk⟩ := Option.isSome_iff_exists.mp tenant
        refine .owed (m := p.clock) (ledger ▸ new) ?_ (harmless lost).inTime
          (harmless lost).uncontested (heeded_of_settle level.sound hk done)
        rw [ideal]
        exact Table.get?_insert_self _ _ _

/-- An event that both have a mark of is skipped by both. -/
theorem Level.noted (level : Level ttl u v) (hu : Taken w u p u') (hv : Taken w v p.kept v')
    {m m' : DateTime} (lossy : u.ledger.ledger.entries.get? p.event.id = some m)
    (ideal : v.ledger.ledger.entries.get? p.event.id = some m')
    (counts : ∀ q ∈ p :: ps, q.event = p.event →
      q.clock.instant - m.instant < ttl ∧ q.clock.instant - m'.instant < ttl) :
    v'.store.organizations = u'.store.organizations ∧ Known ttl w ps p.event u' v' := by
  obtain ⟨hm, hm'⟩ := counts p List.mem_cons_self rfl
  have marked := Ledger.isMarked_of_get? lossy (level.life ▸ hm)
  have marked' := Ledger.isMarked_of_get? ideal (level.life' ▸ hm')
  cases hu with
  | skipped _ store ledger =>
    cases hv with
    | skipped _ store' ledger' =>
      refine ⟨by rw [store, store', level.records], ?_⟩
      exact .noted (ledger ▸ lossy) (ledger' ▸ ideal) fun q hq =>
        counts q (List.mem_cons_of_mem _ hq)
    | settled new => exact nomatch marked'.symm.trans new
    | refused new => exact nomatch marked'.symm.trans new
  | settled new => exact nomatch marked.symm.trans new
  | refused new => exact nomatch marked.symm.trans new

/-- An event whose mark was lost is applied again, and the records are as they were. -/
theorem Level.owed (level : Level ttl u v) (hu : Taken w u p u') (hv : Taken w v p.kept v')
    {m : DateTime} (lossy : u.ledger.ledger.isMarked m p.event.id = false)
    (ideal : v.ledger.ledger.entries.get? p.event.id = some m)
    (inTime : ∀ q ∈ p :: ps, q.event = p.event → m ≤ q.clock ∧ q.clock.instant - m.instant < ttl)
    (heeded : Heeded w u p.event.kind) (harmless : p.lost = true → p.Harmless ttl ps) :
    v'.store.organizations = u'.store.organizations ∧ Known ttl w ps p.event u' v' := by
  obtain ⟨later, counts⟩ := inTime p List.mem_cons_self rfl
  have rest (q : Parcel) (hq : q ∈ ps) := inTime q (List.mem_cons_of_mem _ hq)
  have marked' := Ledger.isMarked_of_get? ideal (level.life' ▸ counts)
  have unmarked := Ledger.isMarked_later lossy later
  obtain ⟨address, org, hk, stored, heeds⟩ := heeded
  cases hv with
  | settled new => exact nomatch marked'.symm.trans new
  | refused new => exact nomatch marked'.symm.trans new
  | skipped _ store' ledger' =>
    cases hu with
    | skipped known => exact nomatch unmarked.symm.trans known
    | @refused id _ _ error =>
      obtain ⟨t, done, -⟩ := settle_of_heeds hk stored heeds (w.nowAt p) id
      exact nomatch error.symm.trans done
    | @settled id _ done ledger =>
      obtain ⟨t, done', same⟩ := settle_of_heeds hk stored heeds (w.nowAt p) id
      obtain rfl : u'.store = t := Except.ok.inj (done.symm.trans done')
      refine ⟨by rw [store', level.records, same], ?_⟩
      cases lost : p.lost with
      | true =>
        rw [lost, if_pos rfl] at ledger
        exact .owed (ledger ▸ lossy) (ledger' ▸ ideal) rest (harmless lost).uncontested
          (heeded_of_settle level.sound hk done)
      | false =>
        rw [lost, if_neg Bool.false_ne_true] at ledger
        have noted : u'.ledger.ledger.entries.get? p.event.id = some p.clock := by
          rw [ledger]
          exact Table.get?_insert_self _ _ _
        refine .noted noted (ledger' ▸ ideal) fun q hq he => ?_
        obtain ⟨hq, hcounts⟩ := rest q hq he
        rw [DateTime.le_iff] at later hq
        exact ⟨by omega, hcounts⟩

/-- What is known of an event that is delivered. -/
theorem Known.delivered (known : Known ttl w (p :: ps) p.event u v) (level : Level ttl u v)
    (hu : Taken w u p u') (hv : Taken w v p.kept v')
    (tenant : p.event.kind.address?.isSome = true)
    (harmless : p.lost = true → p.Harmless ttl ps) :
    v'.store.organizations = u'.store.organizations ∧ Known ttl w ps p.event u' v' := by
  cases known with
  | alike same => exact level.alike hu hv tenant same harmless
  | noted lossy ideal counts => exact level.noted hu hv lossy ideal counts
  | owed lossy ideal inTime _ heeded => exact level.owed hu hv lossy ideal inTime heeded harmless

/-- What is known of an event while another one is delivered. -/
theorem Known.other (known : Known ttl w (p :: ps) event u v) (hs : u.store.Sound)
    (hu : Taken w u p u') (hv : Taken w v p.kept v') (hid : event.id ≠ p.event.id)
    (again : event ∈ ps.map (·.event)) : Known ttl w ps event u' v' := by
  have lossyMark := hu.others hid
  have idealMark := hv.others hid
  cases known with
  | alike same => exact .alike ((idealMark.trans same).trans lossyMark.symm)
  | noted lossy ideal counts =>
    exact .noted (lossyMark.trans lossy) (idealMark.trans ideal)
      fun q hq => counts q (List.mem_cons_of_mem _ hq)
  | @owed m lossy ideal inTime uncontested heeded =>
    obtain ⟨apart, uncontested⟩ := uncontested.tail (fun he => hid (he ▸ rfl)) again
    exact .owed ((Ledger.isMarked_congr m hu.life lossyMark).trans lossy)
      (idealMark.trans ideal) (fun q hq => inTime q (List.mem_cons_of_mem _ hq)) uncontested
      (heeded.take hs hu apart)

end Delivered

/-- The two worlds, and what they know of the events to come. -/
structure Compared (ttl : Int) (w : World) (ps : List Parcel) (u v : World) : Prop
    extends Level ttl u v where
  lossy : w.Steady u
  ideal : w.Steady v
  known : ∀ p ∈ ps, p.event.kind.address?.isSome = true → Known ttl w ps p.event u v

theorem Compared.step (h : Compared ttl w (p :: ps) u v) (hw : w.Steady w)
    (harmless : p.lost = true → p.Harmless ttl ps)
    (consistent : ∀ q ∈ ps, q.event.id = p.event.id → q.event = p.event) :
    Compared ttl w ps (u.take p) (v.take p.kept) := by
  have level := h.toLevel
  have hu := h.lossy.taken hw level.sound p
  have hv := h.ideal.taken hw level.sound' p.kept
  have records : (v.take p.kept).store.organizations = (u.take p).store.organizations := by
    cases hk : p.event.kind.address? with
    | none =>
      rw [hu.organizations level.sound hk, hv.organizations level.sound' hk, level.records]
    | some address =>
      have tenant : p.event.kind.address?.isSome = true := by rw [hk]; rfl
      exact ((h.known p List.mem_cons_self tenant).delivered level hu hv tenant harmless).1
  have catalog : (u.take p).store.SameCatalog (v.take p.kept).store :=
    ((hu.catalog level.sound).symm.trans level.catalog).trans (hv.catalog level.sound')
  refine ⟨⟨hu.sound level.sound, hv.sound level.sound', catalog, records,
    hu.life.trans level.life, hv.life.trans level.life'⟩, h.lossy.take p, h.ideal.take p.kept,
    fun q hq tenant => ?_⟩
  have known := h.known q (List.mem_cons_of_mem _ hq) tenant
  by_cases hid : q.event.id = p.event.id
  · have he := consistent q hq hid
    rw [he] at known tenant ⊢
    exact (known.delivered level hu hv tenant harmless).2
  · exact known.other level.sound hu hv hid (List.mem_map_of_mem hq)

theorem Compared.takeAll (h : Compared ttl w ps u v) (hw : w.Steady w)
    (consistent : ∀ p ∈ ps, ∀ q ∈ ps, q.event.id = p.event.id → q.event = p.event)
    (harmless : ∀ p later, p :: later <:+ ps → p.lost = true → p.Harmless ttl later) :
    (u.takeAll ps).store.organizations = (v.takeAll (ps.map Parcel.kept)).store.organizations := by
  induction ps generalizing u v with
  | nil => exact h.records.symm
  | cons p later ih =>
    have step := h.step hw (harmless p later (List.suffix_refl _)) fun q hq =>
      consistent p List.mem_cons_self q (List.mem_cons_of_mem _ hq)
    refine ih step (fun p hp q hq => ?_) fun q rest hq => ?_
    · exact consistent p (List.mem_cons_of_mem _ hp) q (List.mem_cons_of_mem _ hq)
    · exact harmless q rest (hq.trans (List.suffix_cons _ _))

/-- Marks that are lost cost nothing but work, wherever a lost event is delivered again in time
and uncontested: the records are in the end what they would have been had no mark been lost and
had the further deliveries of these events been skipped. -/
theorem lost_marks_harmless (smooth : w.Smooth) (sound : w.store.Sound)
    (consistent : ∀ p ∈ ps, ∀ q ∈ ps, q.event.id = p.event.id → q.event = p.event)
    (harmless : ∀ p later, p :: later <:+ ps → p.lost = true →
      p.Harmless w.ledger.ledger.ttl later) :
    (w.takeAll ps).store.organizations = (w.takeAll (ps.map Parcel.kept)).store.organizations := by
  have start : Compared w.ledger.ledger.ttl w ps w w :=
    ⟨⟨sound, sound, .refl _, rfl, rfl, rfl⟩, smooth.steady, smooth.steady,
      fun _ _ _ => .alike rfl⟩
  exact start.takeAll smooth.steady consistent harmless

/-- The mark of a subscription is lost. It is delivered again after a payment, and both the
subscription and the payment stay on record. -/
theorem subscribed_twice_around_payment :
    let ps : List Parcel := [⟨sampleSubscribed, newYear 2024 (by decide), true⟩,
      ⟨samplePayment, newYear 2024 (by decide), false⟩,
      ⟨sampleSubscribed, newYear 2024 (by decide), false⟩]
    (sample.takeAll ps).store.organizations =
        (sample.takeAll (ps.map Parcel.kept)).store.organizations ∧
      ((sample.takeAll ps).store.organization? "0xa1").map (·.subscription.providerId) =
        some "sub_1" := by
  intro ps
  have smooth : sample.Smooth := ⟨⟨rfl, rfl, rfl, rfl⟩, rfl⟩
  have consistent : ∀ p ∈ ps, ∀ q ∈ ps, q.event.id = p.event.id → q.event = p.event := by
    decide +kernel
  have harmless (p : Parcel) (later : List Parcel) (hp : p :: later <:+ ps)
      (lost : p.lost = true) : p.Harmless sample.ledger.ledger.ttl later := by
    simp only [ps, List.suffix_cons_iff, List.suffix_nil, List.cons.injEq, reduceCtorEq,
      or_false] at hp
    rcases hp with ⟨rfl, rfl⟩ | ⟨rfl, rfl⟩ | ⟨rfl, rfl⟩
    · exact ⟨by decide +kernel, by decide +kernel⟩
    · cases lost
    · cases lost
  exact ⟨lost_marks_harmless smooth Store.sample_sound consistent harmless, by decide +kernel⟩

/-- The mark of a subscription is lost, and another subscription follows. When the first one is
delivered again the record goes back to it, although the second one came later; had the mark
been made, the second one would have stayed. -/
theorem superseded_subscription_restored :
    let later : Event := ⟨"evt_3", "customer.subscription.created", 0,
      .subscription { sampleSubscription with subscriptionId := "sub_2" }⟩
    let ps : List Parcel := [⟨sampleSubscribed, newYear 2024 (by decide), true⟩,
      ⟨later, newYear 2024 (by decide), false⟩,
      ⟨sampleSubscribed, newYear 2024 (by decide), false⟩]
    ((sample.takeAll ps).store.organization? "0xa1").map (·.subscription.providerId) =
        some "sub_1" ∧
      ((sample.takeAll (ps.map Parcel.kept)).store.organization? "0xa1").map
        (·.subscription.providerId) = some "sub_2" := by
  decide +kernel

end World

end TenantBilling
