import TenantBilling.Proofs.Frame

/-! Programs with somebody else at the other end of their calls to the provider. Whoever that is,
and whatever is remembered there of earlier calls, the answers can be given on the spot, and what
is left of a program is its other calls. Where the same is left, it does not matter who answers. -/

namespace TenantBilling

/-- Somebody who answers the calls to a provider, in any way, and may remember them. -/
def Behaviour (σ : Type) := σ → (c : ProviderCall) → Except BillingError c.Answer × σ

/-- What is said of the customer of an event: nothing when there is no answer. -/
def Behaviour.resolve {σ : Type} (b : Behaviour σ) (s : σ) (c : CustomerRef) : Option Customer :=
  match c.metadata with
  | some metadata => some ⟨c.id, c.email, metadata⟩
  | none => (b s (.customer c.id)).1.toOption

/-- A call that is not made to the provider. -/
def Call.IsLocal : Call → Prop
  | .provider _ => False
  | _ => True

theorem Call.IsQuery.isLocal (c : Call) (h : c.IsQuery) : c.IsLocal := by
  cases c with
  | provider c => cases h
  | _ => trivial

namespace Proc
variable {α β σ τ : Type} {b : Behaviour σ} {s : σ} {c : CustomerRef}

/-- A program with its calls to the provider answered, and what is remembered of them. -/
def served (b : Behaviour σ) : σ → Proc α → Proc (α × σ)
  | s, .done a => .done (a, s)
  | s, .call (.provider c) next => served b (b s c).2 (next (b s c).1)
  | s, .call c next => .call c fun a => served b s (next a)

/-- What is left of a program when its calls to the provider are answered. -/
def heard (b : Behaviour σ) (s : σ) (p : Proc α) : Proc α := (p.served b s).bind fun r => .done r.1

theorem served_bind (p : Proc α) (f : α → Proc β) (s : σ) :
    (p.bind f).served b s = (p.served b s).bind fun r => (f r.1).served b r.2 := by
  induction p generalizing s with
  | done a => rfl
  | call c next ih =>
    cases c with
    | provider c => exact ih _ _
    | _ => exact congrArg (Proc.call _) (funext fun a => ih a s)

/-- The program leaves the same whoever answers. -/
def Careless (p : Proc α) : Prop :=
  ∀ ⦃σ τ : Type⦄ (b : Behaviour σ) (b' : Behaviour τ) (s : σ) (s' : τ), p.heard b s = p.heard b' s'

/-- The program leaves the same whoever answers, if the same is said of a customer. -/
def KnowsOnly (c : CustomerRef) (p : Proc α) : Prop :=
  ∀ ⦃σ τ : Type⦄ (b : Behaviour σ) (b' : Behaviour τ) (s : σ) (s' : τ),
    b.resolve s c = b'.resolve s' c → p.heard b s = p.heard b' s'

theorem Careless.knowsOnly {p : Proc α} (h : p.Careless) : p.KnowsOnly c :=
  fun _ _ b b' s s' _ => h b b' s s'

/-- What follows is heard behind what is heard, if it is careless. -/
theorem heard_bind (p : Proc α) {f : α → Proc β} {g : α → Proc β}
    (h : ∀ a s', (f a).heard b s' = g a) : (p.bind f).heard b s = (p.heard b s).bind g := by
  unfold heard
  rw [served_bind, bind_assoc, bind_assoc]
  refine congrArg (Proc.bind _) (funext fun r => ?_)
  exact h r.1 r.2

/-- A program without calls to the provider is left as it is. -/
theorem heard_local_bind {p : Proc α} (hp : p.Within Call.IsLocal) (f : α → Proc β) :
    (p.bind f).heard b s = p.bind fun a => (f a).heard b s := by
  induction p with
  | done a => rfl
  | call c next ih =>
    cases c with
    | provider c => cases hp.1
    | _ => exact congrArg (Proc.call _) (funext fun a => ih a (hp.2 a))

theorem careless_of_local {p : Proc α} (hp : p.Within Call.IsLocal) : p.Careless := by
  intro σ τ b b' s s'
  have left {σ : Type} (b : Behaviour σ) (s : σ) : p.heard b s = p := by
    have h := heard_local_bind (b := b) (s := s) hp .done
    rw [bind_done] at h
    exact h.trans (bind_done p)
  rw [left, left]

theorem careless_done (a : α) : (Proc.done a).Careless := fun _ _ _ _ _ _ => rfl

theorem Careless.bind {p : Proc α} {f : α → Proc β} (hp : p.Careless) (hf : ∀ a, (f a).Careless) :
    (p.bind f).Careless := by
  intro σ τ b b' s s'
  rw [heard_bind p fun a t => hf a b b t s, heard_bind p fun a t => hf a b' b t s, hp b b' s s']

theorem KnowsOnly.bind {p : Proc α} {f : α → Proc β} (hp : p.KnowsOnly c)
    (hf : ∀ a, (f a).Careless) : (p.bind f).KnowsOnly c := by
  intro σ τ b b' s s' same
  rw [heard_bind p fun a t => hf a b b t s, heard_bind p fun a t => hf a b' b t s,
    hp b b' s s' same]

theorem knowsOnly_local_bind {p : Proc α} {f : α → Proc β} (hp : p.Within Call.IsLocal)
    (hf : ∀ a, (f a).KnowsOnly c) : (p.bind f).KnowsOnly c := by
  intro σ τ b b' s s' same
  rw [heard_local_bind hp, heard_local_bind hp]
  exact congrArg (Proc.bind p) (funext fun a => hf a b b' s s' same)

end Proc

namespace Action
variable {α β : Type} {x : Action α} {f : α → Action β} {c : CustomerRef}

def Careless (x : Action α) : Prop := x.run.Careless

def KnowsOnly (c : CustomerRef) (x : Action α) : Prop := x.run.KnowsOnly c

theorem careless_of_local (h : x.Within Call.IsLocal) : x.Careless := Proc.careless_of_local h

theorem knowsOnly_of_local (h : x.Within Call.IsLocal) : x.KnowsOnly c :=
  Proc.Careless.knowsOnly (Proc.careless_of_local h)

theorem careless_lift {p : Proc α} (hp : p.Careless) : Careless (ExceptT.lift p : Action α) := by
  change Proc.Careless (Except.ok <$> p)
  rw [map_eq_pure_bind]
  exact Proc.Careless.bind hp fun _ => Proc.careless_done _

theorem Careless.bind (hx : x.Careless) (hf : ∀ a, (f a).Careless) : (x >>= f).Careless := by
  unfold Careless
  rw [run_bind]
  refine Proc.Careless.bind hx fun r => ?_
  cases r with
  | ok a => exact hf a
  | error e => exact Proc.careless_done _

theorem KnowsOnly.bind (hx : x.KnowsOnly c) (hf : ∀ a, (f a).Careless) :
    (x >>= f).KnowsOnly c := by
  unfold KnowsOnly
  rw [run_bind]
  refine Proc.KnowsOnly.bind hx fun r => ?_
  cases r with
  | ok a => exact hf a
  | error e => exact Proc.careless_done _

theorem knowsOnly_local_bind (hx : x.Within Call.IsLocal) (hf : ∀ a, (f a).KnowsOnly c) :
    (x >>= f).KnowsOnly c := by
  unfold KnowsOnly
  rw [run_bind]
  refine Proc.knowsOnly_local_bind hx fun r => ?_
  cases r with
  | ok a => exact hf a
  | error e => exact Proc.Careless.knowsOnly (Proc.careless_done _)

/-- What is known is known under a lock, too. -/
theorem KnowsOnly.withTenant (tenant : String) (hx : x.KnowsOnly c) :
    (Action.withTenant tenant x).KnowsOnly c := by
  have release (ticket : Nat) (r : Except Failure α) :
      (Proc.call (.release ticket) fun _ => .done r).Careless :=
    Proc.careless_of_local ⟨trivial, fun _ => trivial⟩
  change Proc.KnowsOnly c (Proc.bind (.ask (.join tenant)) fun ticket =>
    Proc.bind (.ask (.acquire ticket)) fun _ =>
      Proc.bind x.run fun r => .call (.release ticket) fun _ => .done r)
  exact Proc.knowsOnly_local_bind ⟨trivial, fun _ => trivial⟩ fun ticket =>
    Proc.knowsOnly_local_bind ⟨trivial, fun _ => trivial⟩ fun _ =>
      Proc.KnowsOnly.bind hx (release ticket)

end Action

/-! ## A provider as a behaviour -/

theorem Provider.answer_secret (p : Provider) (c : ProviderCall) :
    (p.answer c).2.secret = p.secret ∧ (p.answer c).2.tolerance = p.tolerance := by
  unfold Provider.answer
  dsimp only
  split
  · exact ⟨rfl, rfl⟩
  · cases c <;> simp only [Provider.reply] <;> split <;> exact ⟨rfl, rfl⟩

namespace World
variable {α σ : Type} {w : World}

/-- Runs an action while somebody answers its calls to the provider. -/
def runWith (w : World) (b : Behaviour σ) (s : σ) (x : Action α) : Except Failure α × World :=
  w.runProc (x.run.heard b s)

/-- Whoever else vouches for deliveries with the same secret leaves the other calls their
answers. -/
theorem answer_withProvider {c : Call} (h : c.IsLocal) (w : World) (p : Provider)
    (secret : p.secret = w.provider.secret ∧ p.tolerance = w.provider.tolerance) :
    { w with provider := p }.answer c = ((w.answer c).1, { (w.answer c).2 with provider := p }) ∧
      (w.answer c).2.provider = w.provider := by
  cases c with
  | provider c => cases h
  | verify payload header =>
    simp only [answer, Provider.verify, secret, and_self]
  | store c =>
    simp only [answer]
    split <;> exact ⟨rfl, rfl⟩
  | ledger c =>
    simp only [answer]
    split <;> exact ⟨rfl, rfl⟩
  | _ => exact ⟨rfl, rfl⟩

/-- A provider is somebody who answers calls, and remembers what a provider does. -/
theorem runProc_served (proc : Proc α) (w : World) (p : Provider)
    (secret : p.secret = w.provider.secret ∧ p.tolerance = w.provider.tolerance) :
    { w with provider := p }.runProc proc =
      let r := w.runProc (proc.served Provider.answer p)
      (r.1.1, { r.2 with provider := r.1.2 }) := by
  induction proc generalizing w p with
  | done a => rfl
  | call c next ih =>
    have step (h : c.IsLocal) : { w with provider := p }.runProc (.call c next) =
        let r := (w.answer c).2.runProc ((next (w.answer c).1).served Provider.answer p)
        (r.1.1, { r.2 with provider := r.1.2 }) := by
      obtain ⟨same, kept⟩ := answer_withProvider h w p secret
      rw [runProc, same]
      exact ih _ _ p (kept ▸ secret)
    cases c with
    | provider c =>
      have kept := p.answer_secret c
      exact ih _ w (p.answer c).2 ⟨kept.1.trans secret.1, kept.2.trans secret.2⟩
    | _ => exact step trivial

theorem run_withProvider (x : Action α) (w : World) (p : Provider)
    (secret : p.secret = w.provider.secret ∧ p.tolerance = w.provider.tolerance) :
    ∃ q, { w with provider := p }.run x =
      ((w.runWith Provider.answer p x).1,
        { (w.runWith Provider.answer p x).2 with provider := q }) := by
  refine ⟨(w.runProc (x.run.served Provider.answer p)).1.2, ?_⟩
  unfold run runWith Proc.heard
  rw [runProc_served x.run w p secret, runProc_bind]
  rfl

end World

end TenantBilling
