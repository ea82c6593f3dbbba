import TenantBilling.Text.Numeral

/-! Numbers and their decimal texts. A number is read again from what is written of it, so no two
numbers are written alike. -/

namespace TenantBilling.Text.Numeral
variable {c : Char} {cs : List Char} {m n : Int}

theorem digit?_of_isDigit (h : c.isDigit = true) : digit? c = some (c.toNat - '0'.toNat) := by
  have range : '0' ≤ c ∧ c ≤ '9' := by
    simp only [Char.isDigit, Bool.and_eq_true, decide_eq_true_eq] at h
    exact h
  exact if_pos range

/-- Reading on from a number is what digits are worth behind it. -/
theorem extend?_of_digits (h : ∀ c ∈ cs, c.isDigit = true) (n : Nat) :
    extend? n cs = some (Nat.ofDigitChars 10 cs n) := by
  induction cs generalizing n with
  | nil => rfl
  | cons c cs ih =>
    have first := digit?_of_isDigit (h c List.mem_cons_self)
    rw [extend?, first, Option.bind_some, Nat.ofDigitChars_cons]
    exact ih (fun d hd => h d (List.mem_cons_of_mem _ hd)) _

theorem isDigit_of_mem (n : Nat) (h : c ∈ Nat.toDigits 10 n) : c.isDigit = true :=
  Nat.isDigit_of_mem_toDigits (by decide) (by decide) h

theorem toNat_of_isDigit (h : c.isDigit = true) : 48 ≤ c.toNat ∧ c.toNat ≤ 57 := by
  simp only [Char.isDigit, Bool.and_eq_true, decide_eq_true_eq, UInt32.le_iff_toNat_le] at h
  exact h

/-- There is a first digit, and it is a zero only where it is the only one. -/
theorem toDigits_eq_cons (n : Nat) :
    ∃ c cs, Nat.toDigits 10 n = c :: cs ∧ c.isDigit = true ∧ (c = '0' → cs = []) := by
  have first (n : Nat) : ∃ c cs, Nat.toDigits 10 n = c :: cs ∧ (c = '0' → n = 0) := by
    induction n using Nat.strongRecOn with
    | _ n ih =>
      by_cases small : n < 10
      · refine ⟨Nat.digitChar n, [], Nat.toDigits_of_lt_base small, fun zero => ?_⟩
        have all : ∀ k ∈ List.range 10, Nat.digitChar k = '0' → k = 0 := by decide
        exact all n (List.mem_range.mpr small) zero
      · obtain ⟨c, cs, digits, first⟩ := ih (n / 10) (by omega)
        refine ⟨c, cs ++ [Nat.digitChar (n % 10)], ?_, fun zero => ?_⟩
        · rw [Nat.toDigits_of_base_le (by decide) (by omega), digits]
          rfl
        · have := first zero
          omega
  obtain ⟨c, cs, digits, zero⟩ := first n
  refine ⟨c, cs, digits, isDigit_of_mem n (digits ▸ List.mem_cons_self), fun hc => ?_⟩
  have nothing := zero hc
  subst nothing
  exact (List.cons.inj digits).2.symm

theorem natural?_toDigits (n : Nat) : natural? (Nat.toDigits 10 n) = some n := by
  have read := extend?_of_digits (fun _ => isDigit_of_mem n) 0
  rw [Nat.ofDigitChars_ten_toDigits] at read
  obtain ⟨c, cs, digits, -⟩ := toDigits_eq_cons n
  rw [digits] at read ⊢
  exact read

/-- What begins with a digit has no sign. -/
theorem integer?_of_isDigit (h : c.isDigit = true) :
    integer? (c :: cs) = (natural? (c :: cs)).map Int.ofNat := by
  unfold integer?
  split
  · rename_i plus
    obtain ⟨rfl, -⟩ := List.cons.inj plus
    cases h
  · rename_i minus
    obtain ⟨rfl, -⟩ := List.cons.inj minus
    cases h
  · rfl

/-- A number is read again from its decimal text. -/
theorem integer?_decimal (n : Int) : integer? (decimal n) = some n := by
  cases n with
  | ofNat n =>
    have read := natural?_toDigits n
    change integer? (Nat.toDigits 10 n) = some (Int.ofNat n)
    obtain ⟨c, cs, digits, lead, -⟩ := toDigits_eq_cons n
    rw [digits] at read ⊢
    rw [integer?_of_isDigit lead, read]
    rfl
  | negSucc n =>
    change (natural? (Nat.toDigits 10 (n + 1))).map _ = _
    rw [natural?_toDigits]
    rfl

theorem int64?_decimal (fits : fitsInt64 n = true) : int64? (decimal n) = some n := by
  unfold int64?
  rw [integer?_decimal, Option.filter_some, if_pos fits]

theorem decimal_injective (h : decimal m = decimal n) : m = n := by
  have read := integer?_decimal m
  rw [h, integer?_decimal] at read
  exact (Option.some.inj read).symm

/-- The decimal text of a number is the one it is shown by. -/
theorem text_eq_toString (n : Int) : Text.decimal n = toString n := by
  cases n with
  | ofNat n => rfl
  | negSucc n =>
    change Text.decimal (.negSucc n) = "-" ++ Nat.repr (n + 1)
    rw [← String.toList_inj]
    simp [Text.decimal, decimal]

/-- Nothing but digits and a minus sign is written. -/
theorem mem_decimal (h : c ∈ decimal n) : c.isDigit = true ∨ c = '-' := by
  cases n with
  | ofNat n => exact Or.inl (isDigit_of_mem n h)
  | negSucc n => exact (List.mem_cons.mp h).symm.imp (isDigit_of_mem (n + 1)) id

end TenantBilling.Text.Numeral
