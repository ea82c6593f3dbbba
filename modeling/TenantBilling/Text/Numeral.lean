/-! Whole numbers written in decimal. Reading takes an optional sign and ASCII digits and
refuses a value outside the 64-bit range asked for; writing gives the shortest form. -/

namespace TenantBilling.Text

def int64Least : Int := -9223372036854775808

def int64Greatest : Int := 9223372036854775807

def nat64Greatest : Nat := 18446744073709551615

/-- Whether a number fits a signed 64-bit word. -/
def fitsInt64 (n : Int) : Bool := int64Least ≤ n && n ≤ int64Greatest

namespace Numeral

def digit? (c : Char) : Option Nat :=
  if '0' ≤ c ∧ c ≤ '9' then some (c.toNat - '0'.toNat) else none

/-- Continues the number `n` with the digits that follow. -/
def extend? (n : Nat) : List Char → Option Nat
  | [] => some n
  | c :: cs => (digit? c).bind fun d => extend? (10 * n + d) cs

/-- One or more digits and nothing else. -/
def natural? : List Char → Option Nat
  | [] => none
  | c :: cs => extend? 0 (c :: cs)

/-- Digits behind an optional sign. -/
def integer? : List Char → Option Int
  | '+' :: cs => (natural? cs).map Int.ofNat
  | '-' :: cs => (natural? cs).map fun n => -Int.ofNat n
  | cs => (natural? cs).map Int.ofNat

def int64? (cs : List Char) : Option Int := (integer? cs).filter fitsInt64

/-- Digits behind an optional plus sign. -/
def nat64? : List Char → Option Nat
  | '+' :: cs => (natural? cs).filter (· ≤ nat64Greatest)
  | cs => (natural? cs).filter (· ≤ nat64Greatest)

/-- The digits of a number, behind a minus sign when it is negative. -/
def decimal : Int → List Char
  | .ofNat n => Nat.toDigits 10 n
  | .negSucc n => '-' :: Nat.toDigits 10 (n + 1)

end Numeral

/-- The decimal text of a number. -/
def decimal (n : Int) : String := String.ofList (Numeral.decimal n)

end TenantBilling.Text
