/-! Bytes written as pairs of hexadecimal digits. Writing uses lower case; reading takes
either case and refuses anything else, an odd digit at the end included. -/

namespace TenantBilling.Text.Hex

def digits : List Char := "0123456789abcdef".toList

def digit (n : Nat) : Char := digits.getD n '0'

def digit? (c : Char) : Option Nat :=
  if '0' ≤ c ∧ c ≤ '9' then some (c.toNat - '0'.toNat)
  else if 'a' ≤ c ∧ c ≤ 'f' then some (c.toNat - 'a'.toNat + 10)
  else if 'A' ≤ c ∧ c ≤ 'F' then some (c.toNat - 'A'.toNat + 10)
  else none

def encode : List UInt8 → List Char
  | [] => []
  | b :: r => digit (b.toNat / 16) :: digit (b.toNat % 16) :: encode r

def decode? : List Char → Option (List UInt8)
  | [] => some []
  | [_] => none
  | a :: b :: r => do
    let high ← digit? a
    let low ← digit? b
    let rest ← decode? r
    pure (UInt8.ofNat (16 * high + low) :: rest)

theorem digit?_digit (n : Nat) (h : n < 16) : digit? (digit n) = some n := by
  have all : ∀ k ∈ List.range 16, digit? (digit k) = some k := by decide
  exact all n (List.mem_range.mpr h)

theorem decode?_encode (bytes : List UInt8) : decode? (encode bytes) = some bytes := by
  induction bytes with
  | nil => rfl
  | cons b r ih =>
    have hb : b.toNat < 256 := b.toNat_lt_size
    have hv : UInt8.ofNat (16 * (b.toNat / 16) + b.toNat % 16) = b := by
      rw [Nat.div_add_mod, UInt8.ofNat_toNat]
    rw [encode, decode?, digit?_digit (b.toNat / 16) (by omega),
      digit?_digit (b.toNat % 16) (by omega), ih]
    simp only [Option.bind_eq_bind, Option.bind_some, hv]
    rfl

theorem mem_digits_of_mem_encode {bytes : List UInt8} {c : Char} (h : c ∈ encode bytes) :
    c ∈ digits := by
  have digit_mem (n : Nat) (hn : n < 16) : digit n ∈ digits := by
    have all : ∀ k ∈ List.range 16, digit k ∈ digits := by decide
    exact all n (List.mem_range.mpr hn)
  induction bytes with
  | nil => cases h
  | cons b r ih =>
    have hb : b.toNat < 256 := b.toNat_lt_size
    rcases List.mem_cons.mp h with rfl | h
    · exact digit_mem _ (by omega)
    · rcases List.mem_cons.mp h with rfl | h
      · exact digit_mem _ (by omega)
      · exact ih h

end TenantBilling.Text.Hex
