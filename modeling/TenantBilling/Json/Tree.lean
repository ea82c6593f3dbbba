import TenantBilling.Json.Number
import TenantBilling.Text.Hex
import TenantBilling.Text.Utf8

/-! The grammar of JSON over bytes. A tree keeps strings and numbers as they are written:
nothing is asked of them but their shape, so a document can hold parts that no value stands
for, as long as nobody reads them. -/

namespace TenantBilling.Json

/-- One element of a string literal: a byte, an escaped character, or a UTF-16 unit. -/
inductive Piece where
  | byte (b : UInt8)
  | escape (c : Char)
  | unit (u : Nat)
deriving DecidableEq

inductive Tree where
  | null
  | bool (b : Bool)
  | number (l : Literal)
  | string (pieces : List Piece)
  | array (items : List Tree)
  | object (members : List (List Piece × Tree))

namespace Tree

def isSpace (b : UInt8) : Bool := b == 0x20 || b == 0x09 || b == 0x0A || b == 0x0D

def skipSpace (s : List UInt8) : List UInt8 := s.dropWhile isSpace

def digit? (b : UInt8) : Option Nat :=
  if 0x30 ≤ b.toNat ∧ b.toNat ≤ 0x39 then some (b.toNat - 0x30) else none

/-- The digits at the front, and what follows them. -/
def digits : List UInt8 → List Nat × List UInt8
  | [] => ([], [])
  | b :: r =>
    match digit? b with
    | some d => ((d :: (digits r).1), (digits r).2)
    | none => ([], b :: r)

/-- A fraction, when a point follows: at least one digit. -/
def fraction? (s : List UInt8) : Option (List Nat × List UInt8) :=
  match s with
  | b :: r =>
    if b = '.'.toUInt8 then
      let (ds, r) := digits r
      if ds = [] then none else some (ds, r)
    else some ([], b :: r)
  | [] => some ([], [])

/-- An exponent, when its letter follows: an optional sign and at least one digit. -/
def exponent? (s : List UInt8) : Option (Option (Bool × List Nat) × List UInt8) :=
  match s with
  | b :: r =>
    if b = 'e'.toUInt8 ∨ b = 'E'.toUInt8 then
      let (below, r) :=
        match r with
        | c :: r' =>
          if c = '-'.toUInt8 then (true, r')
          else if c = '+'.toUInt8 then (false, r')
          else (false, r)
        | [] => (false, [])
      let (ds, r) := digits r
      if ds = [] then none else some (some (below, ds), r)
    else some (none, b :: r)
  | [] => some (none, [])

/-- A number without its sign: no digit may follow a zero at the front. -/
def unsigned? (negative : Bool) (s : List UInt8) : Option (Literal × List UInt8) :=
  match digits s with
  | ([], _) => none
  | (0 :: _ :: _, _) => none
  | (whole, r) => do
    let (fraction, r) ← fraction? r
    let (exponent, r) ← exponent? r
    pure (⟨negative, whole, fraction, exponent⟩, r)

def literal? : List UInt8 → Option (Literal × List UInt8)
  | [] => none
  | b :: r => if b = '-'.toUInt8 then unsigned? true r else unsigned? false (b :: r)

/-- The character a letter stands for behind a backslash. -/
def escape? (b : UInt8) : Option Char :=
  if b = '"'.toUInt8 then some '"'
  else if b = '\\'.toUInt8 then some '\\'
  else if b = '/'.toUInt8 then some '/'
  else if b = 'b'.toUInt8 then some '\x08'
  else if b = 'f'.toUInt8 then some '\x0c'
  else if b = 'n'.toUInt8 then some '\n'
  else if b = 'r'.toUInt8 then some '\r'
  else if b = 't'.toUInt8 then some '\t'
  else none

def hexDigit? (b : UInt8) : Option Nat := Text.Hex.digit? (Char.ofNat b.toNat)

def unit? (a b c d : UInt8) : Option Nat := do
  let a ← hexDigit? a
  let b ← hexDigit? b
  let c ← hexDigit? c
  let d ← hexDigit? d
  pure (4096 * a + 256 * b + 16 * c + d)

/-- The rest of a string behind its opening quote. Control characters have to be escaped. -/
def string? : List UInt8 → Option (List Piece × List UInt8)
  | [] => none
  | b :: r =>
    if b = '"'.toUInt8 then some ([], r)
    else if b = '\\'.toUInt8 then
      match r with
      | [] => none
      | e :: r =>
        if e = 'u'.toUInt8 then
          match r with
          | h₁ :: h₂ :: h₃ :: h₄ :: r =>
            (unit? h₁ h₂ h₃ h₄).bind fun u => (string? r).map fun (ps, r) => (.unit u :: ps, r)
          | _ => none
        else (escape? e).bind fun c => (string? r).map fun (ps, r) => (.escape c :: ps, r)
    else if b < 0x20 then none
    else (string? r).map fun (ps, r) => (.byte b :: ps, r)

/-- What follows a fixed word. -/
def word? : List UInt8 → List UInt8 → Option (List UInt8)
  | [], s => some s
  | w :: ws, b :: s => if w = b then word? ws s else none
  | _ :: _, [] => none

mutual

/-- One value and what follows it. The first argument bounds the depth of the search. -/
def value? : Nat → List UInt8 → Option (Tree × List UInt8)
  | 0, _ => none
  | fuel + 1, s =>
    match skipSpace s with
    | [] => none
    | b :: r =>
      if b = '"'.toUInt8 then (string? r).map fun (ps, r) => (.string ps, r)
      else if b = '['.toUInt8 then
        match skipSpace r with
        | [] => none
        | c :: r' =>
          if c = ']'.toUInt8 then some (.array [], r')
          else (items? fuel r).map fun (ts, r) => (.array ts, r)
      else if b = 0x7b then
        match skipSpace r with
        | [] => none
        | c :: r' =>
          if c = 0x7d then some (.object [], r')
          else (members? fuel r).map fun (ms, r) => (.object ms, r)
      else if b = 'n'.toUInt8 then (word? (Text.Utf8.bytes "ull") r).map fun r => (.null, r)
      else if b = 't'.toUInt8 then (word? (Text.Utf8.bytes "rue") r).map fun r => (.bool true, r)
      else if b = 'f'.toUInt8 then (word? (Text.Utf8.bytes "alse") r).map fun r => (.bool false, r)
      else (literal? (b :: r)).map fun (l, r) => (.number l, r)

/-- The elements of an array up to its closing bracket; at least one. -/
def items? : Nat → List UInt8 → Option (List Tree × List UInt8)
  | 0, _ => none
  | fuel + 1, s =>
    match value? fuel s with
    | none => none
    | some (t, r) =>
      match skipSpace r with
      | [] => none
      | b :: r =>
        if b = ','.toUInt8 then (items? fuel r).map fun (ts, r) => (t :: ts, r)
        else if b = ']'.toUInt8 then some ([t], r)
        else none

/-- The members of an object up to its closing brace; at least one. -/
def members? : Nat → List UInt8 → Option (List (List Piece × Tree) × List UInt8)
  | 0, _ => none
  | fuel + 1, s =>
    match skipSpace s with
    | [] => none
    | q :: r =>
      if q = '"'.toUInt8 then
        match string? r with
        | none => none
        | some (k, r) =>
          match skipSpace r with
          | [] => none
          | c :: r =>
            if c = ':'.toUInt8 then
              match value? fuel r with
              | none => none
              | some (t, r) =>
                match skipSpace r with
                | [] => none
                | b :: r =>
                  if b = ','.toUInt8 then (members? fuel r).map fun (ms, r) => ((k, t) :: ms, r)
                  else if b = 0x7d then some ([(k, t)], r)
                  else none
            else none
      else none

end

/-- The tree of a whole document: one value with nothing but space around it. Every two steps
down consume a byte, so the bound on the depth is never met. -/
def ofBytes? (bytes : List UInt8) : Option Tree :=
  match value? (2 * bytes.length + 2) bytes with
  | none => none
  | some (t, r) => if skipSpace r = [] then some t else none

end Tree

end TenantBilling.Json
