import TenantBilling.Config
import TenantBilling.Proofs.Dates
import TenantBilling.Proofs.Reclamation

/-! Which ledgers answer every call. The one date that a ledger computes is the cutoff of a sweep,
and it lies in the calendar unless the time to live reaches back over the beginning of it. The
configuration takes every number of hours, so it takes more of them than a clock of this time can
be set back by; what is true of all that it takes is told by the number of hours. -/

namespace TenantBilling

open Calendar Text

/-- The seconds from the beginning of the calendar to 1970. -/
def secondsBefore1970 : Int := 377705116800

/-- An environment with the credentials and a time to live in hours. -/
def Environment.sample (hours : String) : Environment where
  values := .ofList [("STRIPE_SECRET_KEY", Utf8.bytes "sk_test"),
    ("STRIPE_WEBHOOK_SECRET", Utf8.bytes "whsec_test"),
    ("IDEMPOTENCY_TTL_HOURS", Utf8.bytes hours)]

/-- A time from the beginning of 1970 to the end of 9999. -/
def IsPresent (now : DateTime) : Prop := 0 ≤ now.unix ∧ now.unix ≤ 253402300799

instance (now : DateTime) : Decidable (IsPresent now) := inferInstanceAs (Decidable (_ ∧ _))

namespace Ledger

/-- The local time of a cutoff is in the calendar as long as the local time of the sweep is no
closer to the beginning of it than the time to live. -/
theorem exists_cutoff_iff (seconds : Nat) (now : DateTime) :
    (∃ cutoff, now.add? (-ttlOf seconds 0) = some cutoff) ↔
      seconds ≤ now.unix + now.offset.seconds + secondsBefore1970 := by
  obtain ⟨-, last⟩ := now.local_bounds
  have fraction := now.nano_lt
  unfold DateTime.add?
  rw [DateTime.exists_ofInstant?_iff]
  unfold secondsBefore1970 DateTime.instant ttlOf int64Greatest nanosPerSecond
  split <;> omega

/-- The first second of 1970, written at an offset. -/
theorem exists_1970 (offset : Offset) : ∃ now : DateTime, now.unix = 0 ∧ now.offset = offset := by
  have inRange : ∃ now, DateTime.ofInstant? offset 0 = some now := by
    have least := offset.ge
    have greatest := offset.le
    rw [DateTime.exists_ofInstant?_iff, nanosPerSecond]
    omega
  obtain ⟨now, h⟩ := inRange
  obtain ⟨instant, written⟩ := DateTime.ofInstant?_eq_some_iff.mp h
  refine ⟨now, ?_, written⟩
  rw [DateTime.unix_eq_instant_div, instant]
  rfl

/-- What the present needs of a time to live when it is written at some offsets: the one that is
furthest west counts. -/
theorem cutoffs_present_iff (seconds : Nat) (Written : Offset → Prop) (west : Offset)
    (written : Written west) (furthest : ∀ offset, Written offset → west.seconds ≤ offset.seconds) :
    (∀ now, IsPresent now → Written now.offset →
        ∃ cutoff, now.add? (-ttlOf seconds 0) = some cutoff) ↔
      seconds ≤ secondsBefore1970 + west.seconds := by
  constructor
  · intro all
    obtain ⟨now, first, offset⟩ := exists_1970 west
    have present : IsPresent now := by
      unfold IsPresent
      omega
    have reached := (exists_cutoff_iff seconds now).mp (all now present (offset ▸ written))
    rw [first, offset] at reached
    omega
  · intro short now present at_
    have begun := present.1
    have east := furthest now.offset at_
    refine (exists_cutoff_iff seconds now).mpr ?_
    omega

end Ledger

namespace Config
variable {env : Environment} {config : Config}

theorem ttl_of_accepted (accepted : fromEnvironment env = .ok config) :
    ∃ hours, number env "IDEMPOTENCY_TTL_HOURS" defaultTtlHours Numeral.nat64? = .ok hours ∧
      config.idempotencyTtl = hours * 3600 := by
  have read : billingOf env = .ok config := mapError_eq_ok_iff.mp accepted
  simp only [billingOf, ttlOf, bind_eq_ok_iff] at read
  obtain ⟨_, -, _, ⟨hours, hours_read, product⟩, _, -, _, -, _, -, all⟩ := read
  cases product
  cases all
  exact ⟨hours, hours_read, rfl⟩

end Config

namespace LedgerDesk
variable {d : LedgerDesk} {ttl : Int} {now : DateTime} {c : LedgerCall}

/-- Whether the ledger answers a call, and does not fail. -/
def Answers (d : LedgerDesk) (now : DateTime) (c : LedgerCall) : Prop :=
  ∃ a, (d.answer now c).1 = .ok a

/-- Whether the ledger answers every call of a run. -/
def AnswersAll (d : LedgerDesk) : List (DateTime × LedgerCall) → Prop
  | [] => True
  | c :: calls => d.Answers c.1 c.2 ∧ (d.answer c.1 c.2).2.AnswersAll calls

/-! ## One call -/

theorem Tidy.answers_purge (h : Tidy ttl d) (inRange : ∃ cutoff, now.add? (-ttl) = some cutoff) :
    d.Answers now .purge := by
  obtain ⟨cutoff, hcutoff⟩ := inRange
  obtain ⟨removed, answered, -⟩ := h.purge hcutoff
  exact ⟨removed, answered⟩

/-- A sweep without a cutoff fails, and the ledger stays as it was. -/
theorem Tidy.purge_of_none (h : Tidy ttl d) (out : now.add? (-ttl) = none) :
    d.answer now .purge = (.error .outOfCalendar, d) := by
  have noSweep : d.ledger.sweep? now = none := by
    unfold Ledger.sweep? Ledger.cutoff?
    rw [h.life, out]
    rfl
  obtain ⟨ledger, isObserved, script, outages, markCalls⟩ := d
  obtain ⟨rfl, rfl⟩ : script = [] ∧ outages = .none := ⟨h.plain.script, h.plain.outages⟩
  rw [answer_eq, Outages.strike_none, if_neg Bool.false_ne_true]
  unfold reply
  dsimp only [count]
  rw [noSweep]

/-- Questions and marks compute no date. -/
theorem Tidy.answers_iff (h : Tidy ttl d) (now : DateTime) (c : LedgerCall) :
    d.Answers now c ↔ (c.op = .purge → ∃ cutoff, now.add? (-ttl) = some cutoff) := by
  cases c with
  | isMarked id => exact iff_of_true ⟨_, congrArg Prod.fst (h.plain.answer_isMarked now id)⟩ nofun
  | mark id =>
    refine iff_of_true ⟨(), ?_⟩ nofun
    rw [answer_eq, h.plain.outages, Outages.strike_none, if_neg Bool.false_ne_true, reply_mark]
  | purge =>
    refine ⟨fun ⟨removed, answered⟩ _ => ?_, fun inRange => h.answers_purge (inRange rfl)⟩
    refine Option.ne_none_iff_exists'.mp fun out => ?_
    rw [h.purge_of_none out] at answered
    cases answered

theorem Tidy.fails (h : Tidy ttl d) (unanswered : ¬d.Answers now c) :
    d.answer now c = (.error .outOfCalendar, d) := by
  rw [h.answers_iff, Classical.not_imp] at unanswered
  obtain ⟨purges, out⟩ := unanswered
  cases c with
  | purge =>
    exact h.purge_of_none (Option.eq_none_iff_forall_ne_some.mpr fun t ht => out ⟨t, ht⟩)
  | _ => cases purges

/-! ## Runs -/

theorem Tidy.answersAll (h : Tidy ttl d) {calls : List (DateTime × LedgerCall)}
    (inRange : ∀ c ∈ calls, ∃ cutoff, c.1.add? (-ttl) = some cutoff) : d.AnswersAll calls := by
  induction calls generalizing d with
  | nil => trivial
  | cons c calls ih =>
    refine ⟨(h.answers_iff c.1 c.2).mpr fun _ => inRange c List.mem_cons_self, ?_⟩
    exact ih (h.answer c.1 c.2) fun c' mem => inRange c' (List.mem_cons_of_mem c mem)

/-- A ledger answers every run at some times exactly when it can be swept at all of them. -/
theorem answersAll_iff (ttl : Int) (isObserved : Bool) (At : DateTime → Prop) :
    (∀ calls, (∀ c ∈ calls, At c.1) → (new (.new ttl) isObserved).AnswersAll calls) ↔
      ∀ now, At now → ∃ cutoff, now.add? (-ttl) = some cutoff := by
  have tidy := tidy_new ttl isObserved
  constructor
  · intro all now at_
    have once := all [(now, .purge)] fun c mem => List.mem_singleton.mp mem ▸ at_
    exact (tidy.answers_iff now .purge).mp once.1 rfl
  · exact fun inRange calls times => tidy.answersAll fun c mem => inRange c.1 (times c mem)

/-- A ledger with the time to live of an accepted configuration answers every question and every
mark, and in whatever state it is swept it answers unless so many hours before the local time is
before the calendar; it then stays as it is. So it answers all runs of a UTC clock that shows the
present exactly when the hours are no more than 104918088, and those of a clock at any offset
exactly when they are 26 less. Both bounds are far below the 5124095576030431 hours whose seconds
still fit a word of 64 bits, beyond which the seconds are counted here as if words had no end. -/
theorem every_call_answered_iff {env : Environment} {config : Config}
    (accepted : Config.fromEnvironment env = .ok config) (isObserved : Bool) :
    let fresh := new (.new config.ledgerTtl) isObserved
    ∃ hours, Config.number env "IDEMPOTENCY_TTL_HOURS" Config.defaultTtlHours Numeral.nat64? =
        .ok hours ∧ config.idempotencyTtl = hours * 3600 ∧
      (config.idempotencyTtl ≤ nat64Greatest ↔ hours ≤ 5124095576030431) ∧
      (∀ calls now c, (fresh.after calls).Answers now c ↔
        (c.op = .purge → hours * 3600 ≤ now.unix + now.offset.seconds + secondsBefore1970)) ∧
      (∀ calls now c, ¬(fresh.after calls).Answers now c →
        (fresh.after calls).answer now c = (.error .outOfCalendar, fresh.after calls)) ∧
      ((∀ calls, (∀ c ∈ calls, IsPresent c.1 ∧ c.1.offset = .utc) → fresh.AnswersAll calls) ↔
        hours ≤ 104918088) ∧
      ((∀ calls, (∀ c ∈ calls, IsPresent c.1) → fresh.AnswersAll calls) ↔ hours ≤ 104918062) := by
  intro fresh
  obtain ⟨hours, read, product⟩ := Config.ttl_of_accepted accepted
  have tidy (calls : List (DateTime × LedgerCall)) : Tidy config.ledgerTtl (fresh.after calls) :=
    tidy_after (tidy_new config.ledgerTtl isObserved) calls
  have reaches (now : DateTime) : (∃ cutoff, now.add? (-config.ledgerTtl) = some cutoff) ↔
      hours * 3600 ≤ now.unix + now.offset.seconds + secondsBefore1970 := by
    refine (Ledger.exists_cutoff_iff config.idempotencyTtl now).trans ?_
    omega
  have fits : config.idempotencyTtl ≤ nat64Greatest ↔ hours ≤ 5124095576030431 := by
    rw [product, nat64Greatest]
    omega
  refine ⟨hours, read, product, fits, fun calls now c => ?_,
    fun calls now c => (tidy calls).fails, ?_, ?_⟩
  · rw [(tidy calls).answers_iff, reaches]
  · have utc := Ledger.cutoffs_present_iff config.idempotencyTtl (· = .utc) .utc rfl
      fun _ written => Int.le_of_eq (congrArg Offset.seconds written.symm)
    simp only [← and_imp] at utc
    refine ((answersAll_iff _ _ _).trans utc).trans ?_
    simp only [secondsBefore1970, Offset.utc]
    omega
  · have anywhere := Ledger.cutoffs_present_iff config.idempotencyTtl (fun _ => True)
      ⟨-93599, by decide, by decide⟩ trivial fun offset _ => offset.ge
    simp only [forall_const] at anywhere
    refine ((answersAll_iff _ _ _).trans anywhere).trans ?_
    simp only [secondsBefore1970]
    omega

/-- The longest time to live with which a UTC clock can be trusted. -/
theorem longest_ttl_answered :
    let config := { Config.withDefaults "sk_test" "whsec_test" with
      idempotencyTtl := 104918088 * 3600 }
    Config.fromEnvironment (.sample " +104918088 ") = .ok config ∧
      ∀ calls, (∀ c ∈ calls, IsPresent c.1 ∧ c.1.offset = .utc) →
        (new (.new config.ledgerTtl) true).AnswersAll calls := by
  intro config
  have accepted : Config.fromEnvironment (.sample " +104918088 ") = .ok config := by
    decide +kernel
  obtain ⟨hours, -, product, -, -, -, utc, -⟩ := every_call_answered_iff accepted true
  have same : 104918088 * 3600 = hours * 3600 := product
  exact ⟨accepted, utc.mpr (by omega)⟩

/-- A time to live that is accepted and fits its type, though it goes back further than the
calendar does from 2026. -/
theorem accepted_ttl_unanswered :
    let config := { Config.withDefaults "sk_test" "whsec_test" with
      idempotencyTtl := 106000000 * 3600 }
    let now := newYear 2026 (by decide)
    let fresh := new (.new config.ledgerTtl) true
    Config.fromEnvironment (.sample "106000000") = .ok config ∧
      config.idempotencyTtl ≤ nat64Greatest ∧ IsPresent now ∧ now.offset = .utc ∧
      fresh.answer now .purge = (.error .outOfCalendar, fresh) := by
  intro config now fresh
  have out : now.add? (-config.ledgerTtl) = none := by decide +kernel
  exact ⟨by decide +kernel, by decide, by decide +kernel, rfl,
    (tidy_new config.ledgerTtl true).purge_of_none out⟩

end LedgerDesk

end TenantBilling
