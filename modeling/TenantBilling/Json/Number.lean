import TenantBilling.Text.Numeral

/-! Numbers of a JSON document. A literal without fraction and exponent that fits a 64-bit
word is an integer; every other literal is a double, and one beyond the doubles is refused. -/

namespace TenantBilling.Json

/-- The parts of a number as written; an absent fraction has no digits. -/
structure Literal where
  negative : Bool
  whole : List Nat
  fraction : List Nat
  /-- Whether the exponent is negative, and its digits. -/
  exponent : Option (Bool × List Nat)
deriving DecidableEq

/-- An integer, or a double held by its bits. -/
inductive Number where
  | int (n : Int)
  | float (bits : UInt64)
deriving DecidableEq

namespace Literal

def valueOf (digits : List Nat) : Nat := digits.foldl (fun n d => 10 * n + d) 0

/-- Appends digits to a significand while it fits a word; also how many digits were left out. -/
def appendWhole (significand : Nat) : List Nat → Nat × Nat
  | [] => (significand, 0)
  | d :: ds =>
    if 10 * significand + d ≤ Text.nat64Greatest then appendWhole (10 * significand + d) ds
    else (significand, ds.length + 1)

/-- Appends digits to a significand while it fits a word; also how many were appended. -/
def appendFraction (significand taken : Nat) : List Nat → Nat × Nat
  | [] => (significand, taken)
  | d :: ds =>
    if 10 * significand + d ≤ Text.nat64Greatest then
      appendFraction (10 * significand + d) (taken + 1) ds
    else (significand, taken)

def powerOfTen (n : Nat) : Float := Float.ofScientific 1 false n

/-- A double times a power of ten; none when the result is infinite. -/
def scale (f : Float) (power : Int) : Option Float :=
  if 0 ≤ power then
    if power ≤ 308 then
      let g := f * powerOfTen power.toNat
      if g.isInf then none else some g
    else if f == 0 then some f
    else none
  else if -308 ≤ power then some (f / powerOfTen power.natAbs)
  else if f == 0 then some f
  else scale (f / powerOfTen 308) (power + 308)
termination_by power.natAbs
decreasing_by omega

/-- The double of a significand and a power of ten. -/
def double? (negative : Bool) (significand : Nat) (power : Int) : Option Number :=
  (scale (UInt64.ofNat significand).toFloat power).map fun f =>
    .float (if negative then -f else f).toBits

/-- Exponents above this are not counted out. -/
def greatestExponent : Nat := 2147483647

/-- The double a literal stands for. -/
def float? (l : Literal) : Option Number :=
  let (significand, dropped) := appendWhole 0 l.whole
  let (significand, taken) := appendFraction significand 0 l.fraction
  let power : Int := dropped - taken
  match l.exponent with
  | none => double? l.negative significand power
  | some (below, digits) =>
    let n := valueOf digits
    if n ≤ greatestExponent then
      double? l.negative significand (if below then power - n else power + n)
    else if significand ≠ 0 ∧ ¬below then none
    else double? l.negative 0 0

/-- The number a literal stands for; `-0` is a double, since no integer has that sign. -/
def number? (l : Literal) : Option Number :=
  let n := valueOf l.whole
  if l.fraction = [] ∧ l.exponent = none then
    if l.negative then
      if 0 < n ∧ n ≤ 9223372036854775808 then some (.int (-n)) else l.float?
    else if n ≤ Text.nat64Greatest then some (.int n) else l.float?
  else l.float?

end Literal

end TenantBilling.Json
