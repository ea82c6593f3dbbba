import TenantBilling.Text.Numeral

/-! The shortest decimal text of a double: the fewest digits that read back to it, and of
those the nearest. The search is exact, over the decimal grids around the value. -/

namespace TenantBilling.Json.Shortest

/-- A positive double as a fraction, with the reals that round to it on either side:
`low`, `value` and `high` are counted in the same unit `1 / unit`. -/
structure Span where
  low : Nat
  value : Nat
  high : Nat
  unit : Nat
  /-- Whether the two ends belong to the span. -/
  closed : Bool

def powerOfTwo (n : Nat) : Nat := Nat.pow 2 n

def powerOfTen (n : Nat) : Nat := Nat.pow 10 n

/-- The span of the double with this biased exponent and mantissa. -/
def span (exponent mantissa : Nat) : Span :=
  let m := if exponent = 0 then mantissa else mantissa + powerOfTwo 52
  let below := if mantissa = 0 ∧ 1 < exponent then 1 else 2
  let up := (max exponent 1) - 1077
  let down := 1077 - (max exponent 1)
  { low := (4 * m - below) * powerOfTwo up
    value := 4 * m * powerOfTwo up
    high := (4 * m + 2) * powerOfTwo up
    unit := powerOfTwo down
    closed := m % 2 == 0 }

/-- Whether `count` steps of size `10 ^ step` lie in the span. -/
def Span.holds (s : Span) (count : Nat) (step : Int) : Bool :=
  let at_ := count * s.unit * powerOfTen step.toNat
  let low := s.low * powerOfTen (-step).toNat
  let high := s.high * powerOfTen (-step).toNat
  if s.closed then low ≤ at_ && at_ ≤ high else low < at_ && at_ < high

/-- The number of steps of size `10 ^ step` below the value, and whether the next is nearer. -/
def Span.floor (s : Span) (step : Int) : Nat × Bool :=
  let num := s.value * powerOfTen (-step).toNat
  let den := s.unit * powerOfTen step.toNat
  let n := num / den
  let rest := num % den
  (n, den < 2 * rest || (den == 2 * rest && n % 2 == 1))

/-- The point of the grid that stands for the value, when one lies in the span. -/
def Span.onGrid (s : Span) (step : Int) : Option Nat :=
  let (n, up) := s.floor step
  let (near, far) := if up then (n + 1, n) else (n, n + 1)
  if s.holds near step then some near
  else if s.holds far step then some far
  else none

/-- The least power of ten above a fraction below one, found by moving it up digit by digit. -/
def smallMagnitude (num den : Nat) : Nat → Int → Int
  | 0, p => p
  | fuel + 1, p => if den ≤ num then p else smallMagnitude (10 * num) den fuel (p - 1)

/-- The least `p` with the value below `10 ^ p`. -/
def Span.magnitude (s : Span) : Int :=
  if s.unit ≤ s.value then (Nat.toDigits 10 (s.value / s.unit)).length
  else smallMagnitude (10 * s.value) s.unit 400 0

/-- Tries grids of `digits`, `digits + 1`, … significant digits. -/
def Span.search (s : Span) (magnitude : Int) : Nat → Nat → Nat × Int
  | 0, digits => ((s.floor (magnitude - digits)).1, magnitude - digits)
  | fuel + 1, digits =>
    match s.onGrid (magnitude - digits) with
    | some n => (n, magnitude - digits)
    | none => s.search magnitude fuel (digits + 1)

/-- Moves zeros at the end of a significand into the power of ten. -/
def stripZeros : Nat → Nat → Int → Nat × Int
  | 0, n, p => (n, p)
  | fuel + 1, n, p => if n ≠ 0 ∧ n % 10 = 0 then stripZeros fuel (n / 10) (p + 1) else (n, p)

/-- Significand and power of ten of the shortest text of a positive double. -/
def significand (exponent mantissa : Nat) : Nat × Int :=
  let s := span exponent mantissa
  let (n, p) := s.search s.magnitude 17 1
  stripZeros 20 n p

/-- Digits with a point: positional from 1e-5 up to 1e16, with an exponent beyond. -/
def layout (n : Nat) (power : Int) : List Char :=
  let ds := Nat.toDigits 10 n
  let point : Int := ds.length + power
  if 0 ≤ power ∧ point ≤ 16 then ds ++ List.replicate power.toNat '0' ++ ['.', '0']
  else if 0 < point ∧ point ≤ 16 then ds.take point.toNat ++ '.' :: ds.drop point.toNat
  else if -5 < point ∧ point ≤ 0 then
    '0' :: '.' :: List.replicate (-point).toNat '0' ++ ds
  else
    let exponent := 'e' :: Text.Numeral.decimal (point - 1)
    match ds with
    | [d] => d :: exponent
    | d :: rest => d :: '.' :: rest ++ exponent
    | [] => []

/-- The text of a double that is given by its bits and is finite. -/
def text (bits : UInt64) : List Char :=
  let exponent := bits.toNat / powerOfTwo 52 % 2048
  let mantissa := bits.toNat % powerOfTwo 52
  let body :=
    if exponent = 0 ∧ mantissa = 0 then ['0', '.', '0']
    else
      let (n, p) := significand exponent mantissa
      layout n p
  if bits.toNat / powerOfTwo 63 = 1 then '-' :: body else body

end TenantBilling.Json.Shortest
