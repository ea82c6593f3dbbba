import Mathlib.Algebra.Order.Group.Unbundled.Int
import Mathlib.Data.List.Basic
import TenantBilling.Proofs.Acceptance
import TenantBilling.Proofs.Characters

/-! Signing and verifying. The header of a signed body has two fields, and both are read back as
they were meant: the time from its decimal text, the keyed digest from its hexadecimal digits. So
whether such a header is accepted is left to the clock, as long as the body is the one that was
signed. The time and the body are read back from the signed message, too, whatever the body begins
with: so signatures vouch for no other time or body, unless two messages have one digest. -/

namespace TenantBilling.Signature

open Text

variable {payload signed : List UInt8} {secret : String} {timestamp : Int}

theorem valuesOf_time_sign : valuesOf "t" (fields (sign signed secret timestamp)) =
    [Numeral.decimal timestamp] := by
  rw [fields_sign]
  rfl

theorem valuesOf_candidate_sign : valuesOf "v1" (fields (sign signed secret timestamp)) =
    [Hex.encode (compute secret timestamp signed)] := by
  rw [fields_sign]
  rfl

/-- What is signed at a time is what the header has to vouch for at that time. -/
theorem compute_eq (secret : String) (timestamp : Int) (payload : List UInt8) :
    compute secret timestamp payload = Digest.hmacSha256 (Utf8.bytes secret)
      (Utf8.bytes (decimal timestamp) ++ '.'.toUInt8 :: payload) := by
  unfold compute message Utf8.bytes decimal
  rw [String.toList_ofList]

/-- The header that was made for one body vouches for another one exactly when the two have the
same digest and the time is right. -/
theorem genuine_sign_iff (tolerance now : Int) (fits : fitsInt64 timestamp = true) :
    Genuine payload (sign signed secret timestamp) secret tolerance now ↔
      (now - timestamp).natAbs ≤ tolerance.natAbs ∧
        compute secret timestamp signed = compute secret timestamp payload := by
  have read := Numeral.int64?_decimal fits
  unfold Genuine
  simp only [valuesOf_time_sign, valuesOf_candidate_sign, ← compute_eq, List.mem_singleton,
    exists_eq_left, Hex.decode?_encode, Option.some.injEq, List.getLast?_singleton]
  constructor
  · rintro ⟨_, other, rfl, reread, timely, digest⟩
    obtain rfl := Option.some.inj (read.symm.trans reread)
    exact ⟨timely, digest⟩
  · rintro ⟨timely, digest⟩
    exact ⟨_, timestamp, rfl, read, timely, digest⟩

/-- A signed body is accepted under its own header and secret exactly when the present is no
further from the time of the signature than the tolerance, as integers are, and refused for its
signature otherwise. -/
theorem verify_sign_iff (payload : List UInt8) (secret : String) (tolerance now : Int)
    (fits : fitsInt64 timestamp = true) :
    (verify payload (sign payload secret timestamp) secret tolerance now = .ok () ↔
        |now - timestamp| ≤ |tolerance|) ∧
      (|tolerance| < |now - timestamp| →
        verify payload (sign payload secret timestamp) secret tolerance now =
          .error .signatureInvalid) := by
  have timely : Genuine payload (sign payload secret timestamp) secret tolerance now ↔
      |now - timestamp| ≤ |tolerance| := by
    rw [genuine_sign_iff tolerance now fits, Int.abs_eq_natAbs, Int.abs_eq_natAbs,
      Int.ofNat_le]
    exact and_iff_left rfl
  refine ⟨?_, fun late => ?_⟩
  · rw [verify_eq_ok_iff, accepts_iff, timely]
  · exact verify_of_not_genuine (mt timely.mp (Int.not_le.mpr late))

/-- The first time there is, seen from as far as the widest tolerance reaches. -/
theorem earliest_time_accepted :
    fitsInt64 int64Least = true ∧
      verify [] (sign [] "s" int64Least) "s" int64Least 0 = .ok () ∧
      verify [] (sign [] "s" int64Least) "s" int64Least 1 = .error .signatureInvalid := by
  have fits : fitsInt64 int64Least = true := by decide
  exact ⟨fits, (verify_sign_iff [] "s" int64Least 0 fits).1.mpr (by decide),
    (verify_sign_iff [] "s" int64Least 1 fits).2 (by decide)⟩

/-! ## What is signed -/

variable {payload' : List UInt8} {timestamp' : Int} {header : String} {tolerance now : Int}
  {made : Int → List UInt8 → Prop}

/-- The point behind the time is the first one of a message. -/
theorem point_not_mem (timestamp : Int) :
    '.'.toUInt8 ∉ Utf8.encode (Numeral.decimal timestamp) := by
  have point : '.'.toUInt8 = UInt8.ofNat '.'.toNat := rfl
  rw [point, Utf8.mem_encode_iff_of_ascii (by decide)]
  intro mem
  rcases Numeral.mem_decimal mem with digit | minus
  · cases digit
  · cases minus

/-- A message is cut at its first point, so it tells its time and its body. -/
theorem message_inj (h : message timestamp payload = message timestamp' payload') :
    timestamp = timestamp' ∧ payload = payload' := by
  have place (t : Int) (p : List UInt8) : (message t p).idxOf '.'.toUInt8 =
      (Utf8.encode (Numeral.decimal t)).length := by
    unfold message
    rw [List.idxOf_append_of_notMem (point_not_mem t), List.idxOf_cons_self, Nat.add_zero]
  have length := congrArg (List.idxOf '.'.toUInt8) h
  rw [place, place] at length
  obtain ⟨time, body⟩ := List.append_inj h length
  exact ⟨Numeral.decimal_injective (Utf8.encode_injective time), (List.cons.inj body).2⟩

/-- Whether every candidate of a header comes from signing, under the secret, a body at a time for
which such a signature was made. -/
def OnlyMade (made : Int → List UInt8 → Prop) (header secret : String) : Prop :=
  ∀ candidate ∈ valuesOf "v1" (fields header), ∃ timestamp payload, made timestamp payload ∧
    candidate ∈ valuesOf "v1" (fields (sign payload secret timestamp))

/-- What a header vouches for, at the time that is read from it, has the digest of something that
was signed. -/
theorem Genuine.compute_of_onlyMade (genuine : Genuine payload header secret tolerance now)
    (only : OnlyMade made header secret) :
    ∃ timestamp timestamp' payload', (Header.ofText header).timestamp = some timestamp ∧
      made timestamp' payload' ∧
      compute secret timestamp' payload' = compute secret timestamp payload := by
  obtain ⟨value, timestamp, last, read, -, candidate, listed, digest⟩ := genuine
  obtain ⟨timestamp', payload', signed, mem⟩ := only candidate listed
  rw [valuesOf_candidate_sign, List.mem_singleton] at mem
  rw [mem, Hex.decode?_encode, ← compute_eq] at digest
  refine ⟨timestamp, timestamp', payload', ?_, signed, Option.some.inj digest⟩
  rw [ofText_eq, ofFields, last, Option.bind_some, read]

/-- No two pairs of a time and a body give one message. So a body that is accepted under a header
whose candidates were all made by signing was itself signed, at the time of the header, unless its
message has the digest of another one that was. -/
theorem signature_binds (secret : String) :
    (∀ timestamp timestamp' payload payload',
        message timestamp payload = message timestamp' payload' →
          timestamp = timestamp' ∧ payload = payload') ∧
      ∀ (made : Int → List UInt8 → Prop) payload header tolerance now,
        OnlyMade made header secret → verify payload header secret tolerance now = .ok () →
        ∃ timestamp, (Header.ofText header).timestamp = some timestamp ∧
          (made timestamp payload ∨
            ∃ timestamp' payload', made timestamp' payload' ∧
              message timestamp' payload' ≠ message timestamp payload ∧
              Digest.hmacSha256 (Utf8.bytes secret) (message timestamp' payload') =
                Digest.hmacSha256 (Utf8.bytes secret) (message timestamp payload)) := by
  refine ⟨fun _ _ _ _ => message_inj, fun made payload header tolerance now only accepted => ?_⟩
  have genuine := accepts_iff.mp ((verify_eq_ok_iff ..).mp accepted)
  obtain ⟨timestamp, timestamp', payload', read, signed, digest⟩ :=
    genuine.compute_of_onlyMade only
  refine ⟨timestamp, read, ?_⟩
  by_cases same : message timestamp' payload' = message timestamp payload
  · obtain ⟨rfl, rfl⟩ := message_inj same
    exact Or.inl signed
  · exact Or.inr ⟨timestamp', payload', signed, same, digest⟩

/-- The time of the one message that was signed is written again behind its header, with a sign. -/
theorem rewritten_time_bound :
    let header := sign [] "s" 0 ++ "," ++ "t=+0"
    let made (timestamp : Int) (payload : List UInt8) : Prop := timestamp = 0 ∧ payload = []
    OnlyMade made header "s" ∧ verify [] header "s" 0 0 = .ok () ∧
      ∃ timestamp, (Header.ofText header).timestamp = some timestamp ∧
        (made timestamp [] ∨ ∃ timestamp' payload', made timestamp' payload' ∧
          message timestamp' payload' ≠ message timestamp [] ∧
          Digest.hmacSha256 (Utf8.bytes "s") (message timestamp' payload') =
            Digest.hmacSha256 (Utf8.bytes "s") (message timestamp [])) := by
  intro header made
  have second : fields "t=+0" = [("t".toList, ['+', '0'])] := by decide
  have times : valuesOf "t" (fields header) = [['0'], ['+', '0']] := by
    rw [fields_append, valuesOf_append, valuesOf_time_sign, second]
    rfl
  have candidates : valuesOf "v1" (fields header) = valuesOf "v1" (fields (sign [] "s" 0)) := by
    rw [fields_append, valuesOf_append, second]
    exact List.append_nil _
  have only : OnlyMade made header "s" := by
    intro candidate listed
    exact ⟨0, [], ⟨rfl, rfl⟩, candidates ▸ listed⟩
  have accepted : verify [] header "s" 0 0 = .ok () := by
    refine (verify_eq_ok_iff ..).mpr (accepts_iff.mpr ⟨['+', '0'], 0, ?_, by decide, by decide,
      Hex.encode (compute "s" 0 []), ?_, ?_⟩)
    · rw [times]
      rfl
    · rw [candidates, valuesOf_candidate_sign]
      exact List.mem_cons_self
    · rw [Hex.decode?_encode, compute_eq]
  exact ⟨only, accepted, (signature_binds "s").2 made [] header 0 0 only accepted⟩

end TenantBilling.Signature
