/-! UTF-8 as the bytes of a text. `decode?` reads only shortest forms of scalar values,
so the bytes it accepts are the bytes `encode` writes. -/

namespace TenantBilling.Text.Utf8

def encode (cs : List Char) : List UInt8 := cs.flatMap String.utf8EncodeChar

/-- The six bits carried by a continuation byte. -/
def continuation? (b : UInt8) : Option Nat :=
  if 0x80 ≤ b.toNat ∧ b.toNat < 0xC0 then some (b.toNat - 0x80) else none

/-- The scalar value `v`, unless a shorter sequence could have held it. -/
def scalar? (least v : Nat) : Option Char :=
  if least ≤ v ∧ v.isValidChar then some (Char.ofNat v) else none

def two? (a b : UInt8) : Option Char := do
  let b ← continuation? b
  scalar? 0x80 ((a.toNat - 0xC0) * 64 + b)

def three? (a b c : UInt8) : Option Char := do
  let b ← continuation? b
  let c ← continuation? c
  scalar? 0x800 ((a.toNat - 0xE0) * 4096 + b * 64 + c)

def four? (a b c d : UInt8) : Option Char := do
  let b ← continuation? b
  let c ← continuation? c
  let d ← continuation? d
  scalar? 0x10000 ((a.toNat - 0xF0) * 262144 + b * 4096 + c * 64 + d)

/-- The characters of a byte sequence, when all of it is UTF-8. -/
def decode? : List UInt8 → Option (List Char)
  | [] => some []
  | a :: r =>
    if a.toNat < 0x80 then (decode? r).map (Char.ofNat a.toNat :: ·)
    else if a.toNat < 0xC0 then none
    else match r with
      | [] => none
      | b :: r =>
        if a.toNat < 0xE0 then (two? a b).bind fun x => (decode? r).map (x :: ·)
        else match r with
          | [] => none
          | c :: r =>
            if a.toNat < 0xF0 then (three? a b c).bind fun x => (decode? r).map (x :: ·)
            else match r with
              | [] => none
              | d :: r =>
                if a.toNat < 0xF8 then (four? a b c d).bind fun x => (decode? r).map (x :: ·)
                else none

/-- The text of a byte sequence, when all of it is UTF-8. -/
def text? (bytes : List UInt8) : Option String := (decode? bytes).map String.ofList

/-- The bytes of a text. -/
def bytes (s : String) : List UInt8 := encode s.toList

@[simp] theorem encode_nil : encode [] = [] := rfl

@[simp] theorem encode_append (a b : List Char) : encode (a ++ b) = encode a ++ encode b := by
  simp [encode]

end TenantBilling.Text.Utf8
