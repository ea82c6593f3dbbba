import TenantBilling.Proofs.Execution

/-! What a program can do when store calls may fail. A scene is the part of a world that
reconciliation works on. Provider and ledger answer as they do in the world; a call to the
store either answers or fails without effect. Everything a program does in a world, it can
do in the scene of that world. -/

namespace TenantBilling

open Calendar

structure Scene where
  store : Store
  ledger : LedgerDesk
  provider : Provider
  /-- The clock of the provider and the ledger. -/
  clock : DateTime
  now : DateTime

namespace Scene

/-- Whether a call can be answered so, and leave the scene so. Tickets and fresh ids are
somebody else's choice. -/
def Answers (mayFail : Prop) (s : Scene) : (c : Call) → c.Answer → Scene → Prop
  | .now, a, t => a = s.now ∧ t = s
  | .verify payload header, a, t => a = s.provider.verify s.clock.unix payload header ∧ t = s
  | .store c, a, t =>
    (a = (s.store.answer c).1 ∧ t = { s with store := (s.store.answer c).2 }) ∨
      (mayFail ∧ a = .error (StoreDesk.unavailable c.op) ∧ t = s)
  | .ledger c, a, t =>
    a = (s.ledger.answer s.clock c).1 ∧ t = { s with ledger := (s.ledger.answer s.clock c).2 }
  | .provider c, a, t =>
    a = (s.provider.answer c).1 ∧ t = { s with provider := (s.provider.answer c).2 }
  | _, _, t => t = s

end Scene

/-- Whether a program can end with this result and leave the scene so. -/
def Proc.Yields {α : Type} (mayFail : Prop) : Proc α → Scene → α → Scene → Prop
  | .done a, s, b, t => b = a ∧ t = s
  | .call c next, s, b, t => ∃ a u, s.Answers mayFail c a u ∧ (next a).Yields mayFail u b t

theorem Proc.yields_bind {α β : Type} {mayFail : Prop} (p : Proc α) (f : α → Proc β)
    (s : Scene) (b : β) (t : Scene) :
    (p.bind f).Yields mayFail s b t ↔
      ∃ a u, p.Yields mayFail s a u ∧ (f a).Yields mayFail u b t := by
  induction p generalizing s with
  | done a =>
    constructor
    · exact fun h => ⟨a, s, ⟨rfl, rfl⟩, h⟩
    · rintro ⟨a, u, ⟨rfl, rfl⟩, h⟩
      exact h
  | call c next ih =>
    constructor
    · rintro ⟨a, u, ha, h⟩
      obtain ⟨x, v, hx, hb⟩ := (ih a u).mp h
      exact ⟨x, v, ⟨a, u, ha, hx⟩, hb⟩
    · rintro ⟨x, v, ⟨a, u, ha, hx⟩, hb⟩
      exact ⟨a, u, ha, (ih a u).mpr ⟨x, v, hx, hb⟩⟩

/-- What every allowed call keeps, a program keeps that makes no others. -/
theorem Proc.Yields.keeps {α : Type} {mayFail : Prop} {allowed : Call → Prop}
    (inv : Scene → Prop)
    (keeps : ∀ s c a u, allowed c → Scene.Answers mayFail s c a u → inv s → inv u) {p : Proc α}
    (hp : p.Within allowed) {s t : Scene} {b : α} (h : p.Yields mayFail s b t) (hs : inv s) :
    inv t := by
  induction p generalizing s with
  | done a => exact h.2 ▸ hs
  | call c next ih =>
    obtain ⟨a, u, ha, h⟩ := h
    exact ih a (hp.2 a) h (keeps s c a u hp.1 ha hs)

/-- What a call to the store fails with when the store cannot be reached. -/
def Failure.storeDown (op : StoreOp) : Failure := .error (StoreDesk.unavailable op).toBilling

namespace Action
variable {α β : Type} {mayFail : Prop} {s t : Scene}

def Gives (mayFail : Prop) (x : Action α) (s : Scene) (r : Except Failure α) (t : Scene) : Prop :=
  x.run.Yields mayFail s r t

theorem gives_pure {a : α} {r : Except Failure α} :
    (pure a : Action α).Gives mayFail s r t ↔ r = .ok a ∧ t = s := Iff.rfl

/-- A sequence goes on with the result of its first part, or ends in the failure of it. -/
theorem gives_bind {x : Action α} {f : α → Action β} {r : Except Failure β} :
    (x >>= f).Gives mayFail s r t ↔
      (∃ a u, x.Gives mayFail s (.ok a) u ∧ (f a).Gives mayFail u r t) ∨
        ∃ e, x.Gives mayFail s (.error e) t ∧ r = .error e := by
  unfold Gives
  rw [run_bind, Proc.yields_bind]
  constructor
  · rintro ⟨a | a, u, hx, h⟩
    · obtain ⟨rfl, rfl⟩ := h
      exact Or.inr ⟨a, hx, rfl⟩
    · exact Or.inl ⟨a, u, hx, h⟩
  · rintro (⟨a, u, hx, h⟩ | ⟨e, hx, rfl⟩)
    · exact ⟨.ok a, u, hx, h⟩
    · exact ⟨.error e, t, hx, rfl, rfl⟩

theorem gives_map {x : Action α} {f : α → β} {r : Except Failure β} :
    (f <$> x).Gives mayFail s r t ↔ ∃ q, x.Gives mayFail s q t ∧ r = q.map f := by
  rw [map_eq_pure_bind, gives_bind]
  constructor
  · rintro (⟨a, u, hx, rfl, rfl⟩ | ⟨e, hx, rfl⟩)
    · exact ⟨.ok a, hx, rfl⟩
    · exact ⟨.error e, hx, rfl⟩
  · rintro ⟨q | q, hx, rfl⟩
    · exact Or.inr ⟨q, hx, rfl⟩
    · exact Or.inl ⟨q, t, hx, rfl, rfl⟩

theorem gives_lift {p : Proc α} {r : Except Failure α} :
    Gives mayFail (ExceptT.lift p) s r t ↔ ∃ a, p.Yields mayFail s a t ∧ r = .ok a := by
  change (Except.ok <$> p : Proc _).Yields mayFail s r t ↔ _
  rw [map_eq_pure_bind]
  refine (Proc.yields_bind p _ s r t).trans ⟨?_, ?_⟩
  · rintro ⟨a, u, hp, rfl, rfl⟩
    exact ⟨a, hp, rfl⟩
  · rintro ⟨a, hp, rfl⟩
    exact ⟨a, t, hp, rfl, rfl⟩

theorem gives_bind_orFail {a : Option α} {e : BillingError} {f : α → Action β}
    {r : Except Failure β} :
    (orFail a e >>= f).Gives mayFail s r t ↔
      (∃ x, a = some x ∧ (f x).Gives mayFail s r t) ∨
        (a = none ∧ r = .error (.error e) ∧ t = s) := by
  cases a with
  | none =>
    constructor
    · exact fun h => Or.inr ⟨rfl, h⟩
    · rintro (⟨_, h, _⟩ | ⟨_, h⟩)
      · cases h
      · exact h
  | some x =>
    constructor
    · exact fun h => Or.inl ⟨x, rfl, h⟩
    · rintro (⟨_, hx, h⟩ | ⟨h, _⟩)
      · cases hx
        exact h
      · cases h

theorem gives_bind_ofExcept {x : Except BillingError α} {f : α → Action β}
    {r : Except Failure β} :
    (ofExcept x >>= f).Gives mayFail s r t ↔
      (∃ a, x = .ok a ∧ (f a).Gives mayFail s r t) ∨
        ∃ e, x = .error e ∧ r = .error (.error e) ∧ t = s := by
  cases x with
  | error e =>
    constructor
    · exact fun h => Or.inr ⟨e, rfl, h⟩
    · rintro (⟨_, hx, _⟩ | ⟨_, hx, h⟩)
      · cases hx
      · cases hx
        exact h
  | ok a =>
    constructor
    · exact fun h => Or.inl ⟨a, rfl, h⟩
    · rintro (⟨_, hx, h⟩ | ⟨_, hx, _⟩)
      · cases hx
        exact h
      · cases hx

theorem gives_bind_now {f : DateTime → Action α} {r : Except Failure α} :
    (now >>= f).Gives mayFail s r t ↔ (f s.now).Gives mayFail s r t := by
  constructor
  · rintro ⟨_, _, ⟨rfl, rfl⟩, h⟩
    exact h
  · exact fun h => ⟨_, _, ⟨rfl, rfl⟩, h⟩

theorem gives_bind_freshId {f : Uuid → Action α} {r : Except Failure α} :
    (freshId >>= f).Gives mayFail s r t ↔ ∃ id, (f id).Gives mayFail s r t := by
  constructor
  · rintro ⟨id, _, rfl, h⟩
    exact ⟨id, h⟩
  · rintro ⟨id, h⟩
    exact ⟨id, s, rfl, h⟩

theorem gives_store {c : StoreCall} {r : Except Failure c.Answer} :
    (store c).Gives mayFail s r t ↔
      (r = (s.store.answer c).1.mapError (fun e => .error e.toBilling) ∧
        t = { s with store := (s.store.answer c).2 }) ∨
      (mayFail ∧ r = .error (.storeDown c.op) ∧ t = s) := by
  constructor
  · rintro ⟨_, _, ⟨rfl, rfl⟩ | ⟨hf, rfl, rfl⟩, rfl, rfl⟩
    · exact Or.inl ⟨rfl, rfl⟩
    · exact Or.inr ⟨hf, rfl, rfl⟩
  · rintro (⟨rfl, rfl⟩ | ⟨hf, rfl, rfl⟩)
    · exact ⟨_, _, Or.inl ⟨rfl, rfl⟩, rfl, rfl⟩
    · exact ⟨_, _, Or.inr ⟨hf, rfl, rfl⟩, rfl, rfl⟩

/-- A call to the store is answered and carried out, or the store cannot be reached. -/
theorem gives_bind_store {c : StoreCall} {x : c.Answer} {s' : Store}
    (hc : s.store.answer c = (.ok x, s')) {f : c.Answer → Action α} {r : Except Failure α}
    (h : (store c >>= f).Gives mayFail s r t) :
    (f x).Gives mayFail { s with store := s' } r t ∨
      (mayFail ∧ r = .error (.storeDown c.op) ∧ t = s) := by
  rw [gives_bind] at h
  rcases h with ⟨a, u, hx, h⟩ | ⟨e, hx, rfl⟩
  · rcases gives_store.mp hx with ⟨ha, rfl⟩ | ⟨_, ha, _⟩
    · rw [hc] at ha h
      cases ha
      exact Or.inl h
    · cases ha
  · rcases gives_store.mp hx with ⟨ha, -⟩ | ⟨hf, ha, rfl⟩
    · rw [hc] at ha
      cases ha
    · cases ha
      exact Or.inr ⟨hf, rfl, rfl⟩

theorem gives_bind_read {c : StoreCall} {x : c.Answer} (hc : s.store.answer c = (.ok x, s.store))
    {f : c.Answer → Action α} {r : Except Failure α} (h : (store c >>= f).Gives mayFail s r t) :
    (f x).Gives mayFail s r t ∨ (mayFail ∧ r = .error (.storeDown c.op) ∧ t = s) :=
  gives_bind_store hc h

theorem gives_ledger {c : LedgerCall} {r : Except Failure c.Answer} :
    (ledger c).Gives mayFail s r t ↔
      r = (s.ledger.answer s.clock c).1 ∧
        t = { s with ledger := (s.ledger.answer s.clock c).2 } := by
  constructor
  · rintro ⟨_, _, ⟨rfl, rfl⟩, rfl, rfl⟩
    exact ⟨rfl, rfl⟩
  · rintro ⟨rfl, rfl⟩
    exact ⟨_, _, ⟨rfl, rfl⟩, rfl, rfl⟩

theorem gives_bind_provider {c : ProviderCall} {f : c.Answer → Action α} {r : Except Failure α} :
    (provider c >>= f).Gives mayFail s r t ↔
      (∃ a, (s.provider.answer c).1 = .ok a ∧
        (f a).Gives mayFail { s with provider := (s.provider.answer c).2 } r t) ∨
      ∃ e, (s.provider.answer c).1 = .error e ∧ r = .error (.error e) ∧
        t = { s with provider := (s.provider.answer c).2 } := by
  constructor
  · rintro ⟨_, _, ⟨rfl, rfl⟩, h⟩
    cases ha : (s.provider.answer c).1 with
    | error e =>
      rw [ha] at h
      exact Or.inr ⟨e, rfl, h⟩
    | ok a =>
      rw [ha] at h
      exact Or.inl ⟨a, rfl, h⟩
  · rintro (⟨a, ha, h⟩ | ⟨e, ha, h⟩)
    · refine ⟨_, _, ⟨rfl, rfl⟩, ?_⟩
      rw [ha]
      exact h
    · refine ⟨_, _, ⟨rfl, rfl⟩, ?_⟩
      rw [ha]
      exact h

/-- A scene has no locks, so that an action under a lock is the action. -/
theorem gives_withTenant {tenant : String} {x : Action α} {r : Except Failure α} :
    (withTenant tenant x).Gives mayFail s r t ↔ x.Gives mayFail s r t := by
  constructor
  · rintro ⟨_, _, rfl, _, _, rfl, h⟩
    obtain ⟨q, u, hx, _, _, rfl, rfl, rfl⟩ := (Proc.yields_bind x.run _ _ r t).mp h
    exact hx
  · intro hx
    exact ⟨0, s, rfl, (), s, rfl,
      (Proc.yields_bind x.run _ s r t).mpr ⟨r, t, hx, (), t, rfl, rfl, rfl⟩⟩

theorem gives_withCatalog {x : Action α} {r : Except Failure α} :
    (withCatalog x).Gives mayFail s r t ↔ x.Gives mayFail s r t := by
  constructor
  · rintro ⟨_, _, rfl, h⟩
    obtain ⟨q, u, hx, _, _, rfl, rfl, rfl⟩ := (Proc.yields_bind x.run _ _ r t).mp h
    exact hx
  · intro hx
    exact ⟨(), s, rfl,
      (Proc.yields_bind x.run _ s r t).mpr ⟨r, t, hx, (), t, rfl, rfl, rfl⟩⟩

end Action

namespace World
variable {α : Type}

/-- The part of a world that reconciliation works on. -/
def scene (w : World) : Scene where
  store := w.store
  ledger := w.ledger
  provider := w.provider
  clock := w.clock
  now := w.now

/-- A world in which the store fails, if at all, only where it may. -/
structure Open (mayFail : Prop) (w : World) : Prop where
  pool : w.poolClosed = false
  store : mayFail ∨ w.desk.outages = .none

theorem open_of_pool {w : World} (pool : w.poolClosed = false) : w.Open True :=
  ⟨pool, Or.inl trivial⟩

theorem Open.answer {mayFail : Prop} {w : World} (h : w.Open mayFail) (c : Call) :
    (w.answer c).2.Open mayFail := by
  cases c with
  | store c =>
    refine ⟨by simp [World.answer, h.pool], h.store.imp id fun hs => ?_⟩
    simp [World.answer, h.pool, StoreDesk.answer, hs]
  | ledger c =>
    exact ⟨by simp [World.answer, h.pool], by simpa [World.answer, h.pool] using h.store⟩
  | _ => exact ⟨h.pool, h.store⟩

theorem answers_scene {mayFail : Prop} {w : World} (h : w.Open mayFail) (c : Call) :
    w.scene.Answers mayFail c (w.answer c).1 (w.answer c).2.scene := by
  cases c with
  | store c =>
    simp only [World.answer, h.pool, Bool.false_eq_true, if_false, Scene.Answers]
    rcases h.store with hf | hs
    · cases hc : (w.desk.outages.strike c.op).1 with
      | false => left; simp [StoreDesk.answer, hc, scene, World.store, World.now]
      | true => right; simp [StoreDesk.answer, hc, scene, World.store, World.now, hf]
    · left; simp [StoreDesk.answer, hs, scene, World.store, World.now]
  | ledger c =>
    simp [World.answer, h.pool, Scene.Answers, scene, World.store, World.now]
  | now => exact ⟨rfl, rfl⟩
  | verify payload header => exact ⟨rfl, rfl⟩
  | provider c => exact ⟨rfl, rfl⟩
  | _ => rfl

/-- A program does nothing in a world that it cannot do in the scene. -/
theorem runProc_yields {mayFail : Prop} (p : Proc α) {w : World} (h : w.Open mayFail) :
    p.Yields mayFail w.scene (w.runProc p).1 (w.runProc p).2.scene := by
  induction p generalizing w with
  | done a => exact ⟨rfl, rfl⟩
  | call c next ih => exact ⟨_, _, answers_scene h c, ih _ (h.answer c)⟩

theorem run_gives {mayFail : Prop} (x : Action α) {w : World} (h : w.Open mayFail) :
    x.Gives mayFail w.scene (w.run x).1 (w.run x).2.scene := runProc_yields x.run h

end World

end TenantBilling
