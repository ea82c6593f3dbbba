import TenantBilling.World

/-! Programs run call by call. What every call of a kind keeps, a program that makes only
calls of that kind keeps, whatever the answers are. -/

namespace TenantBilling

instance decidableEqExcept {ε α : Type} [DecidableEq ε] [DecidableEq α] : DecidableEq (Except ε α)
  | .ok a, .ok b => decidable_of_iff (a = b) ⟨congrArg _, Except.ok.inj⟩
  | .error a, .error b => decidable_of_iff (a = b) ⟨congrArg _, Except.error.inj⟩
  | .ok _, .error _ => isFalse nofun
  | .error _, .ok _ => isFalse nofun

namespace Proc
variable {α β : Type}

/-- Every call that a program can come to is allowed, whatever was answered before. -/
def Within (allowed : Call → Prop) : Proc α → Prop
  | done _ => True
  | call c next => allowed c ∧ ∀ a, Within allowed (next a)

theorem Within.bind {allowed : Call → Prop} {p : Proc α} {f : α → Proc β}
    (hp : p.Within allowed) (hf : ∀ a, (f a).Within allowed) : (p.bind f).Within allowed := by
  induction p with
  | done a => exact hf a
  | call c next ih => exact ⟨hp.1, fun a => ih a (hp.2 a)⟩

theorem Within.mono {allowed wider : Call → Prop} (h : ∀ c, allowed c → wider c) {p : Proc α}
    (hp : p.Within allowed) : p.Within wider := by
  induction p with
  | done a => trivial
  | call c next ih => exact ⟨h c hp.1, fun a => ih a (hp.2 a)⟩

end Proc

namespace Action
variable {α β : Type} {allowed : Call → Prop}

theorem run_bind (x : Action α) (f : α → Action β) :
    (x >>= f).run = Proc.bind x.run fun r => match r with
      | .ok a => (f a).run
      | .error e => .done (.error e) := by
  change Proc.bind x.run (ExceptT.bindCont f) = _
  congr 1
  funext r
  cases r <;> rfl

def Within (allowed : Call → Prop) (x : Action α) : Prop := Proc.Within allowed x.run

theorem within_pure (a : α) : Within allowed (pure a : Action α) := trivial

theorem within_ofExcept (e : Except BillingError α) : Within allowed (ofExcept e) := trivial

theorem within_fail (e : BillingError) : Within allowed (fail e : Action α) := trivial

theorem within_orFail (a : Option α) (e : BillingError) : Within allowed (orFail a e) := by
  cases a <;> trivial

theorem Within.bind {x : Action α} {f : α → Action β} (hx : Within allowed x)
    (hf : ∀ a, Within allowed (f a)) : Within allowed (x >>= f) := by
  unfold Within
  rw [run_bind]
  refine Proc.Within.bind hx fun r => ?_
  cases r with
  | ok a => exact hf a
  | error e => trivial

theorem Within.map {x : Action α} (f : α → β) (hx : Within allowed x) :
    Within allowed (f <$> x) := by
  rw [map_eq_pure_bind]
  exact hx.bind fun a => within_pure (f a)

theorem within_lift {p : Proc α} (hp : p.Within allowed) :
    Within allowed (ExceptT.lift p : Action α) := by
  change Proc.Within allowed (Except.ok <$> p)
  rw [map_eq_pure_bind]
  exact hp.bind fun _ => trivial

theorem within_now (h : allowed .now) : Within allowed now := ⟨h, fun _ => trivial⟩

theorem within_freshId (h : allowed .freshId) : Within allowed freshId := ⟨h, fun _ => trivial⟩

theorem within_store (c : StoreCall) (h : allowed (.store c)) : Within allowed (store c) :=
  ⟨h, fun _ => trivial⟩

theorem within_provider (c : ProviderCall) (h : allowed (.provider c)) :
    Within allowed (provider c) := ⟨h, fun _ => trivial⟩

end Action

namespace World
variable {α β : Type}

/-- What every allowed call keeps, a program keeps that makes no others. -/
theorem runProc_keeps (inv : World → Prop) {allowed : Call → Prop}
    (keeps : ∀ w c, allowed c → inv w → inv (w.answer c).2) {p : Proc α}
    (hp : p.Within allowed) {w : World} (hw : inv w) : inv (w.runProc p).2 := by
  induction p generalizing w with
  | done a => exact hw
  | call c next ih => exact ih _ (hp.2 _) (keeps w c hp.1 hw)

/-- What every call keeps, every program keeps. -/
theorem run_keeps (inv : World → Prop) (keeps : ∀ w c, inv w → inv (w.answer c).2)
    (x : Action α) {w : World} (hw : inv w) : inv (w.run x).2 := by
  unfold run
  induction x.run generalizing w with
  | done a => exact hw
  | call c next ih => exact ih _ (keeps w c hw)

theorem answer_store {w : World} (h : w.poolClosed = false) (c : StoreCall) :
    w.answer (.store c) = ((w.desk.answer c).1, { w with desk := (w.desk.answer c).2 }) := by
  unfold answer
  exact if_neg (by simp [h])

theorem answer_ledger {w : World} (h : w.poolClosed = false) (c : LedgerCall) :
    w.answer (.ledger c) =
      ((w.ledger.answer w.clock c).1, { w with ledger := (w.ledger.answer w.clock c).2 }) := by
  unfold answer
  exact if_neg (by simp [h])

theorem run_bind (w : World) (x : Action α) (f : α → Action β) :
    w.run (x >>= f) = match w.run x with
      | (.ok a, w') => w'.run (f a)
      | (.error e, w') => (.error e, w') := by
  unfold run
  rw [Action.run_bind, runProc_bind]
  rcases w.runProc x.run with ⟨r, w'⟩
  cases r <;> rfl

theorem run_ledger (w : World) (c : LedgerCall) :
    w.run (Action.ledger c) = w.answer (.ledger c) := rfl

theorem run_verify (w : World) (payload : List UInt8) (header : String) :
    w.run (Action.verify payload header) =
      ((w.provider.verify w.clock.unix payload header).mapError .error, w) := rfl

/-- Without its database the store is not changed. -/
theorem store_run_of_poolClosed (a : Action α) {w : World} (h : w.poolClosed = true) :
    (w.run a).2.store = w.store := by
  refine (run_keeps (fun u => u.poolClosed = true ∧ u.store = w.store) ?_ a ⟨h, rfl⟩).2
  intro u c hu
  cases c with
  | store c =>
    simp only [answer, hu.1, if_true]
    exact ⟨trivial, hu.2⟩
  | ledger c =>
    simp only [answer, hu.1, if_true]
    exact ⟨trivial, hu.2⟩
  | _ => exact hu

theorem run_store_of_poolClosed {u : World} (h : u.poolClosed = true) (c : StoreCall) :
    u.run (Action.store c) =
      (.error (.error ConnectionError.poolClosed.toStore.toBilling), u) := by
  have hanswer : u.answer (.store c) = (closedStore c, u) := by
    unfold answer
    exact if_pos h
  change u.runProc (.call (.store c) fun a => .done _) = _
  unfold runProc
  rw [hanswer]
  rfl

end World

end TenantBilling
