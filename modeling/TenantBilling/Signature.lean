import TenantBilling.Digest.Hmac
import TenantBilling.Error
import TenantBilling.Text.Blank
import TenantBilling.Text.Hex
import TenantBilling.Text.Numeral
import TenantBilling.Text.Split

/-! Signatures of webhook deliveries. A header names a time and candidate signatures of the
message made of that time and the body; one candidate has to be the keyed digest of that
message, and the time has to be near the present. -/

namespace TenantBilling.Signature

open Text

/-- The parts of a header that matter: its time, when readable, and its candidates. -/
structure Header where
  timestamp : Option Int
  candidates : List (List Char)
deriving DecidableEq

/-- Takes one part of a header into account. A later time replaces an earlier one. -/
def Header.read (h : Header) (part : List Char) : Header :=
  match splitFirst? '=' (trimChars part) with
  | some (['t'], value) => { h with timestamp := Numeral.int64? value }
  | some (['v', '1'], value) => { h with candidates := h.candidates ++ [value] }
  | _ => h

def Header.ofText (header : String) : Header :=
  (splitAll ',' header.toList).foldl Header.read ⟨none, []⟩

/-- The bytes that are signed: the time in decimal, a point, and the body. -/
def message (timestamp : Int) (payload : List UInt8) : List UInt8 :=
  Utf8.encode (Numeral.decimal timestamp) ++ '.'.toUInt8 :: payload

def compute (secret : String) (timestamp : Int) (payload : List UInt8) : List UInt8 :=
  Digest.hmacSha256 (Utf8.bytes secret) (message timestamp payload)

/-- Whether a time is no further from the present than the tolerance, in either direction. -/
def isTimely (tolerance now timestamp : Int) : Bool :=
  (now - timestamp).natAbs ≤ tolerance.natAbs

def accepts (payload : List UInt8) (header secret : String) (tolerance now : Int) : Bool :=
  let h := Header.ofText header
  match h.timestamp with
  | none => false
  | some t =>
    let digest := compute secret t payload
    isTimely tolerance now t && h.candidates.any fun c => Hex.decode? c == some digest

def verify (payload : List UInt8) (header secret : String) (tolerance now : Int) :
    Except BillingError Unit :=
  if accepts payload header secret tolerance now then .ok () else .error .signatureInvalid

/-- The header that signs a body at a time. -/
def sign (payload : List UInt8) (secret : String) (timestamp : Int) : String :=
  String.ofList ("t=".toList ++ Numeral.decimal timestamp ++ ",v1=".toList ++
    Hex.encode (compute secret timestamp payload))

theorem verify_eq_ok_iff (payload : List UInt8) (header secret : String) (tolerance now : Int) :
    verify payload header secret tolerance now = .ok () ↔
      accepts payload header secret tolerance now = true := by
  unfold verify
  split <;> simp_all

end TenantBilling.Signature
