import Mathlib.Data.List.Induction
import TenantBilling.Proofs.History
import TenantBilling.Proofs.Marks

/-! How long a ledger remembers. It answers as the plain list of all marks would: an event is
marked as long as its last mark counts. Sweeps drop whole hours of marks, and an event that is
marked again is listed in several hours, but only what does not count any more is ever gone. So
nobody who asks can tell whether or when the ledger was swept. -/

namespace TenantBilling

open Calendar

/-- A call that marks an event. -/
def LedgerCall.marks (id : String) : LedgerCall → Bool
  | .mark other => other == id
  | _ => false

/-- A call that is no sweep. -/
def LedgerCall.keeps : LedgerCall → Bool
  | .purge => false
  | _ => true

/-- When an event was last marked in a number of calls, each with its time. -/
def lastMark? (calls : List (DateTime × LedgerCall)) (id : String) : Option DateTime :=
  ((calls.filter fun c => c.2.marks id).getLast?).map (·.1)

theorem lastMark?_concat (past : List (DateTime × LedgerCall)) (now : DateTime) (c : LedgerCall)
    (id : String) : lastMark? (past ++ [(now, c)]) id =
      if c.marks id then some now else lastMark? past id := by
  unfold lastMark?
  rw [List.filter_append]
  cases h : c.marks id <;> simp [h]

/-- Sweeps mark nothing. -/
theorem lastMark?_filter_keeps (calls : List (DateTime × LedgerCall)) (id : String) :
    lastMark? (calls.filter (·.2.keeps)) id = lastMark? calls id := by
  unfold lastMark?
  rw [List.filter_filter]
  congr 3
  funext c
  cases c.2 <;> simp [LedgerCall.marks, LedgerCall.keeps]

/-! ## Marks that are recalled -/

variable {ttl : Int} {now : DateTime}

/-- Whether a ledger may have an entry for an event that was last marked at a time: it has that
mark, or it has none and the mark does not count any more. -/
def Recalls (ttl : Int) (now : DateTime) (last entry : Option DateTime) : Prop :=
  entry = last ∨ (entry = none ∧ ∃ m, last = some m ∧ ttl ≤ now.instant - m.instant)

namespace Recalls
variable {last entry left : Option DateTime}

theorem trans (h : Recalls ttl now last entry) (h' : Recalls ttl now entry left) :
    Recalls ttl now last left := by
  rcases h with rfl | ⟨rfl, expired⟩
  · exact h'
  · rcases h' with rfl | ⟨-, m, hm, -⟩
    · exact Or.inr ⟨rfl, expired⟩
    · cases hm

/-- A mark that does not count any more does not count later. -/
theorem mono {later : DateTime} (h : Recalls ttl now last entry) (hlater : now ≤ later) :
    Recalls ttl later last entry := by
  rw [DateTime.le_iff] at hlater
  rcases h with same | ⟨gone, m, hm, expired⟩
  · exact Or.inl same
  · exact Or.inr ⟨gone, m, hm, by omega⟩

/-- Nobody who asks notices that a mark is gone. -/
theorem isMarked {l : Ledger} {id : String} (h : Recalls l.ttl now last (l.entries.get? id)) :
    l.isMarked now id = last.any fun m => now.instant - m.instant < l.ttl := by
  unfold Ledger.isMarked
  rcases h with same | ⟨gone, m, rfl, expired⟩
  · rw [same]
    cases last <;> rfl
  · rw [gone, Option.any_some]
    exact (decide_eq_false (by omega)).symm

end Recalls

/-- A sweep drops marks that do not count any more, and nothing else. -/
theorem Ledger.recalls_sweep {l swept : Ledger} {removed : Nat}
    (h : l.sweep? now = some (swept, removed)) (id : String) :
    Recalls l.ttl now (l.entries.get? id) (swept.entries.get? id) := by
  cases hswept : swept.entries.get? id with
  | some m => exact Or.inl (get?_of_sweep? h hswept).symm
  | none =>
    cases hm : l.entries.get? id with
    | none => exact Or.inl rfl
    | some m =>
      refine Or.inr ⟨rfl, m, rfl, Int.not_lt.mp fun counts => ?_⟩
      rw [get?_sweep? h hm (by omega)] at hswept
      cases hswept

/-! ## Calls -/

namespace LedgerDesk

/-- The ledger after a number of calls. -/
def after (d : LedgerDesk) (calls : List (DateTime × LedgerCall)) : LedgerDesk :=
  calls.foldl (fun d c => (d.answer c.1 c.2).2) d

/-- A ledger that has what it may have after a number of calls. -/
structure Retains (ttl : Int) (past : List (DateTime × LedgerCall)) (now : DateTime)
    (d : LedgerDesk) : Prop where
  plain : d.IsPlain
  life : d.ledger.ttl = ttl
  marks : ∀ id, Recalls ttl now (lastMark? past id) (d.ledger.entries.get? id)

variable {d : LedgerDesk} {past calls : List (DateTime × LedgerCall)}

/-- A call leaves what the ledger may have after it. -/
theorem Retains.answer (h : Retains ttl past now d) (c : LedgerCall) :
    Retains ttl (past ++ [(now, c)]) now (d.answer now c).2 := by
  obtain ⟨plain, ledger⟩ := h.plain.answer_ledger now c
  cases c with
  | isMarked other =>
    refine ⟨plain, ledger ▸ h.life, fun id => ?_⟩
    rw [ledger, lastMark?_concat]
    exact h.marks id
  | mark other =>
    refine ⟨plain, ledger ▸ h.life, fun id => ?_⟩
    rw [ledger, lastMark?_concat]
    by_cases hid : other = id
    · rw [hid, LedgerCall.marks, beq_self_eq_true, if_pos rfl]
      exact Or.inl (Table.get?_insert_self _ _ _)
    · rw [LedgerCall.marks, if_neg (by simpa using hid)]
      have same : (d.ledger.mark now other).entries.get? id = d.ledger.entries.get? id :=
        Table.get?_insert_of_ne _ _ (Ne.symm hid)
      rw [same]
      exact h.marks id
  | purge =>
    have last (id : String) : lastMark? (past ++ [(now, .purge)]) id = lastMark? past id :=
      lastMark?_concat past now .purge id
    cases hsweep : d.ledger.sweep? now with
    | none =>
      have same : (d.answer now .purge).2.ledger = d.ledger := by
        rw [ledger, hsweep]
        rfl
      refine ⟨plain, same ▸ h.life, fun id => ?_⟩
      rw [same, last]
      exact h.marks id
    | some x =>
      have swept : (d.answer now .purge).2.ledger = x.1 := by
        rw [ledger, hsweep]
        rfl
      refine ⟨plain, ?_, fun id => ?_⟩
      · rw [swept, Ledger.ttl_of_sweep? hsweep, h.life]
      · have dropped := Ledger.recalls_sweep hsweep id
        rw [h.life] at dropped
        rw [swept, last]
        exact (h.marks id).trans dropped

theorem Retains.mono {later : DateTime} (h : Retains ttl past now d) (hlater : now ≤ later) :
    Retains ttl past later d := ⟨h.plain, h.life, fun id => (h.marks id).mono hlater⟩

/-- What is answered to who asks whether an event is marked. -/
theorem Retains.answer_isMarked (h : Retains ttl past now d) (id : String) :
    (d.answer now (.isMarked id)).1 =
      .ok ((lastMark? past id).any fun m => now.instant - m.instant < ttl) := by
  obtain ⟨plain, rfl, marks⟩ := h
  rw [plain.answer_isMarked, (marks id).isMarked]

/-- Calls that are made in their order leave what the ledger may have after them. -/
theorem retains_after (ttl : Int) (isObserved : Bool)
    (forward : (calls.map (·.1) ++ [now]).Pairwise (· ≤ ·)) :
    Retains ttl calls now ((new (.new ttl) isObserved).after calls) := by
  induction calls using List.reverseRecOn generalizing now with
  | nil => exact ⟨⟨rfl, rfl⟩, rfl, fun id => Or.inl (Table.get?_empty id)⟩
  | append_singleton past c ih =>
    rw [List.map_append, List.pairwise_append] at forward
    obtain ⟨before, -, reached⟩ := forward
    have answered := (ih before).answer c.2
    rw [after, List.foldl_append]
    exact answered.mono (reached c.1 (by simp) now (by simp))

/-- An event is marked as long as its last mark counts, whatever was asked, marked and swept
before, and whenever; and the answer is the same when nothing is ever swept. -/
theorem retention_exact (ttl : Int) (isObserved : Bool) (id : String)
    (forward : (calls.map (·.1) ++ [now]).Pairwise (· ≤ ·)) :
    let d := new (.new ttl) isObserved
    ((d.after calls).answer now (.isMarked id)).1 =
        .ok ((lastMark? calls id).any fun m => now.instant - m.instant < ttl) ∧
      ((d.after (calls.filter (·.2.keeps))).answer now (.isMarked id)).1 =
        ((d.after calls).answer now (.isMarked id)).1 := by
  intro d
  have kept : ((calls.filter (·.2.keeps)).map (·.1) ++ [now]).Pairwise (· ≤ ·) :=
    forward.sublist ((List.filter_sublist.map _).append (.refl _))
  have told := (retains_after ttl isObserved forward).answer_isMarked id
  refine ⟨told, ?_⟩
  rw [told, (retains_after ttl isObserved kept).answer_isMarked, lastMark?_filter_keeps]

/-- An event that is marked again an hour and a half later counts for two hours from then, though
a sweep drops the hour in which it was marked first. -/
theorem marked_again_after_sweep :
    let first := newYear 2024 (by decide)
    let again := { first with second := 5400, second_lt := by decide }
    let swept := { first with second := 11400, second_lt := by decide }
    let asked := { first with second := 12000, second_lt := by decide }
    let d := new (.new 7200000000000) false
    let calls := [(first, .mark "evt_1"), (again, .mark "evt_1"), (swept, .purge)]
    ((d.after calls).answer asked (.isMarked "evt_1")).1 = .ok true := by
  intro first again swept asked d calls
  have forward : (calls.map (·.1) ++ [asked]).Pairwise (· ≤ ·) := by decide
  have counts : ((lastMark? calls "evt_1").any fun m =>
      asked.instant - m.instant < 7200000000000) = true := by decide
  rw [← counts]
  exact (retention_exact 7200000000000 false "evt_1" forward).1

end LedgerDesk

end TenantBilling
