import TenantBilling.Proofs.Sweeps
import TenantBilling.World

/-! What a ledger remembers. A sweep drops marks and adds none, and it drops no mark that still
counts, whichever hours the mark is listed in. A mark that is asked for is made, unless every
attempt at it fails. -/

namespace TenantBilling

open Calendar

/-! ## Sweeps -/

namespace Ledger
variable {l swept : Ledger} {now : DateTime} {removed : Nat} {id : String} {m : DateTime}

theorem ttl_of_sweep? (h : l.sweep? now = some (swept, removed)) : swept.ttl = l.ttl := by
  obtain ⟨cutoff, -, sweeping⟩ := swept_of_sweep? h
  exact sweeping.life

theorem get?_of_sweep? (h : l.sweep? now = some (swept, removed))
    (hm : swept.entries.get? id = some m) : l.entries.get? id = some m := by
  obtain ⟨cutoff, -, sweeping⟩ := swept_of_sweep? h
  exact sweeping.pruned.kept id m hm

/-- A sweep keeps every mark that counts. -/
theorem get?_sweep? (h : l.sweep? now = some (swept, removed)) (hm : l.entries.get? id = some m)
    (hcounts : now.instant - m.instant < l.ttl) : swept.entries.get? id = some m := by
  obtain ⟨cutoff, hcutoff, sweeping⟩ := swept_of_sweep? h
  have hinstant := DateTime.instant_add? hcutoff
  cases left : swept.entries.get? id with
  | none =>
    have expired := sweeping.pruned.expired id m hm left
    rw [DateTime.le_iff] at expired
    omega
  | some n => exact (sweeping.pruned.kept id n left).symm.trans hm

/-! ## Marks that count -/

/-- A mark that does not count any more does not count later. -/
theorem isMarked_later (h : l.isMarked now id = false) {later : DateTime} (hlater : now ≤ later) :
    l.isMarked later id = false := by
  rw [DateTime.le_iff] at hlater
  unfold isMarked at h ⊢
  split
  · rfl
  · rename_i m hm
    rw [hm] at h
    simp only [decide_eq_false_iff_not] at h ⊢
    omega

/-- A mark counts as long as its ledger says. -/
theorem isMarked_of_get? (h : l.entries.get? id = some m)
    (counts : now.instant - m.instant < l.ttl) : l.isMarked now id = true := by
  unfold isMarked
  rw [h]
  exact decide_eq_true counts

/-- Whether an event is marked depends on its mark alone. -/
theorem isMarked_congr {k : Ledger} (now : DateTime) (life : k.ttl = l.ttl)
    (same : k.entries.get? id = l.entries.get? id) : k.isMarked now id = l.isMarked now id := by
  unfold isMarked
  rw [same, life]

end Ledger

/-! ## The ledger as its callers meet it -/

namespace Outages
variable {ο : Type} [DecidableEq ο]

/-- Whether the next calls of an operation, so many of them, all fail. -/
def allFail (o : Outages ο) (op : ο) : Nat → Bool
  | 0 => true
  | n + 1 => (o.strike op).1 && (o.strike op).2.allFail op n

theorem planned_strike_of_ne (o : Outages ο) {op other : ο} (h : other ≠ op) :
    (o.strike op).2.planned other = o.planned other := by
  unfold strike
  split <;> simp [set, h]

/-- What happens to an operation depends on what is planned for it alone. -/
theorem strike_congr {o p : Outages ο} {op : ο} (h : o.planned op = p.planned op) :
    (o.strike op).1 = (p.strike op).1 ∧
      (o.strike op).2.planned op = (p.strike op).2.planned op := by
  unfold strike
  rw [← h]
  split
  · exact ⟨rfl, h⟩
  · exact ⟨rfl, by simp [set]⟩
  · exact ⟨rfl, by simp [set]⟩

theorem allFail_congr {o p : Outages ο} {op : ο} (h : o.planned op = p.planned op) (n : Nat) :
    o.allFail op n = p.allFail op n := by
  induction n generalizing o p with
  | zero => rfl
  | succ n ih =>
    obtain ⟨hfails, hrest⟩ := strike_congr h
    rw [allFail, allFail, hfails, ih hrest]

end Outages

namespace LedgerDesk

/-- A ledger that answers for itself: nothing is planned for it. -/
structure IsPlain (d : LedgerDesk) : Prop where
  script : d.script = []
  outages : d.outages = .none

/-- Whether an event would be let through: the ledger, asked twice, knows nothing of it. -/
def Admits (d : LedgerDesk) (now : DateTime) (id : String) : Prop :=
  (d.answer now (.isMarked id)).1 = .ok false ∧
    ((d.answer now (.isMarked id)).2.answer now (.isMarked id)).1 = .ok false

theorem IsPlain.answer_isMarked {d : LedgerDesk} (h : d.IsPlain) (now : DateTime) (id : String) :
    d.answer now (.isMarked id) = (.ok (d.ledger.isMarked now id), d) := by
  obtain ⟨ledger, isObserved, script, outages, markCalls⟩ := d
  obtain ⟨rfl, rfl⟩ : script = [] ∧ outages = .none := ⟨h.script, h.outages⟩
  rfl

theorem IsPlain.admits_iff {d : LedgerDesk} (h : d.IsPlain) {now : DateTime} {id : String} :
    d.Admits now id ↔ d.ledger.isMarked now id = false := by
  unfold Admits
  rw [h.answer_isMarked, h.answer_isMarked]
  exact ⟨fun hd => Except.ok.inj hd.1, fun hd => ⟨congrArg _ hd, congrArg _ hd⟩⟩

theorem answer_eq (d : LedgerDesk) (now : DateTime) (c : LedgerCall) :
    d.answer now c =
      if (d.outages.strike c.op).1 then
        (.error unavailable, { d.count c with outages := (d.outages.strike c.op).2 })
      else { d.count c with outages := (d.outages.strike c.op).2 }.reply now c := rfl

theorem reply_mark (d : LedgerDesk) (now : DateTime) (id : String) :
    d.reply now (.mark id) = (.ok (), { d with ledger := d.ledger.mark now id }) := rfl

theorem reply_purge (d : LedgerDesk) (now : DateTime) :
    (d.reply now .purge).2 =
      { d with ledger := ((d.ledger.sweep? now).map Prod.fst).getD d.ledger } := by
  unfold reply
  dsimp only
  cases d.ledger.sweep? now <;> rfl

theorem isMarked_ledger (d : LedgerDesk) (now : DateTime) (id : String) :
    (d.isMarked now id).2.ledger = d.ledger ∧ (d.isMarked now id).2.outages = d.outages := by
  unfold isMarked
  cases d.script <;> exact ⟨rfl, rfl⟩

/-- A question changes neither the marks nor the fate of the marks to come. -/
theorem answer_isMarked (d : LedgerDesk) (now : DateTime) (id : String) :
    (d.answer now (.isMarked id)).2.ledger = d.ledger ∧
      (d.answer now (.isMarked id)).2.outages.planned .mark = d.outages.planned .mark ∧
      ((∃ b, (d.answer now (.isMarked id)).1 = .ok b) ∨
        (d.answer now (.isMarked id)).1 = .error unavailable) := by
  have hmark := d.outages.planned_strike_of_ne (by decide : LedgerOp.mark ≠ .isMarked)
  rw [answer_eq]
  cases (d.outages.strike (LedgerCall.isMarked id).op).1 with
  | true => exact ⟨rfl, hmark, Or.inr rfl⟩
  | false =>
    obtain ⟨hl, ho⟩ := isMarked_ledger
      { d with outages := (d.outages.strike (LedgerCall.isMarked id).op).2 } now id
    refine ⟨hl, ?_, Or.inl ⟨_, rfl⟩⟩
    refine Eq.trans ?_ hmark
    exact congrArg (Outages.planned · .mark) ho

/-- What is left in a plain ledger after a call: it forgets nothing but in a sweep. -/
theorem IsPlain.answer_ledger {d : LedgerDesk} (h : d.IsPlain) (now : DateTime) (c : LedgerCall) :
    (d.answer now c).2.IsPlain ∧ (d.answer now c).2.ledger =
      match c with
      | .isMarked _ => d.ledger
      | .mark id => d.ledger.mark now id
      | .purge => ((d.ledger.sweep? now).map Prod.fst).getD d.ledger := by
  obtain ⟨ledger, isObserved, script, outages, markCalls⟩ := d
  obtain ⟨rfl, rfl⟩ : script = [] ∧ outages = .none := ⟨h.script, h.outages⟩
  rw [answer_eq, Outages.strike_none]
  cases c with
  | isMarked id => exact ⟨⟨rfl, rfl⟩, rfl⟩
  | mark id => cases isObserved <;> exact ⟨⟨rfl, rfl⟩, rfl⟩
  | purge =>
    rw [if_neg Bool.false_ne_true, reply_purge]
    exact ⟨⟨rfl, rfl⟩, rfl⟩

theorem script_count (d : LedgerDesk) (c : LedgerCall) : (d.count c).script = d.script := by
  unfold count
  split
  · split <;> rfl
  · rfl

/-- A question that is not scripted is answered from the marks. -/
theorem isMarked_of_script {d : LedgerDesk} (h : d.script = []) (now : DateTime) (id : String) :
    d.isMarked now id = (d.ledger.isMarked now id, d) := by
  unfold isMarked
  rw [h]

/-- A ledger is not given a script by being called. -/
theorem script_answer {d : LedgerDesk} (h : d.script = []) (now : DateTime) (c : LedgerCall) :
    (d.answer now c).2.script = [] := by
  have hcount := (d.script_count c).trans h
  rw [answer_eq]
  split
  · exact hcount
  · cases c with
    | isMarked id =>
      have hreply := isMarked_of_script (d := { d.count (.isMarked id) with
        outages := (d.outages.strike .isMarked).2 }) hcount now id
      exact (congrArg (·.2.script) hreply).trans hcount
    | mark id => exact hcount
    | purge =>
      rw [reply_purge]
      exact hcount

/-- A ledger that can be asked is, when no answer is scripted. -/
theorem answer_isMarked_of_planned {d : LedgerDesk} (h : d.script = [])
    (planned : d.outages.planned .isMarked = []) (now : DateTime) (id : String) :
    d.answer now (.isMarked id) = (.ok (d.ledger.isMarked now id), d) := by
  have hstrike : d.outages.strike .isMarked = (false, d.outages) := by
    unfold Outages.strike
    rw [planned]
  have hop : (LedgerCall.isMarked id).op = .isMarked := rfl
  have hreply : d.reply now (.isMarked id) = (.ok (d.isMarked now id).1, (d.isMarked now id).2) :=
    rfl
  rw [answer_eq, hop, hstrike]
  exact hreply.trans (by rw [isMarked_of_script h])

/-- A purge leaves no mark that was not there. -/
theorem get?_of_answer_purge {d : LedgerDesk} {now : DateTime} {id : String} {m : DateTime}
    (h : (d.answer now .purge).2.ledger.entries.get? id = some m) :
    d.ledger.entries.get? id = some m := by
  rw [answer_eq] at h
  split at h
  · exact h
  · rw [reply_purge] at h
    dsimp only [count] at h
    cases hs : d.ledger.sweep? now with
    | none =>
      rw [hs] at h
      exact h
    | some p =>
      rw [hs] at h
      exact Ledger.get?_of_sweep? hs h

/-- The ledger after so many attempts to mark an event, of which the first that succeeds is
the last. -/
def tryMark (d : LedgerDesk) (now : DateTime) (id : String) : Nat → LedgerDesk
  | 0 => d
  | n + 1 =>
    match d.answer now (.mark id) with
    | (.ok _, d') => d'
    | (.error _, d') => d'.tryMark now id n

theorem tryMark_ledger (d : LedgerDesk) (now : DateTime) (id : String) (n : Nat) :
    (d.tryMark now id n).ledger =
      if d.outages.allFail .mark n then d.ledger else d.ledger.mark now id := by
  induction n generalizing d with
  | zero => rfl
  | succ n ih =>
    have hcount : (d.count (.mark id)).ledger = d.ledger := by
      simp only [count]
      split <;> rfl
    rw [tryMark, answer_eq, Outages.allFail]
    cases hf : (d.outages.strike .mark).1 with
    | false =>
      simp only [LedgerCall.op, hf, Bool.false_eq_true, if_false, reply_mark, Bool.false_and,
        hcount]
    | true => simp only [LedgerCall.op, hf, if_true, ih, hcount, Bool.true_and]

end LedgerDesk

end TenantBilling
