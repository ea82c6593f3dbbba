import TenantBilling.Digest.Sha256

/-! Keyed authentication of a byte sequence with SHA-256: the digest of the key's outer
block before the digest of the key's inner block before the message. -/

namespace TenantBilling.Digest

/-- A key as one block: a longer key is digested, a shorter one is filled with zeros. -/
def keyBlock (key : List UInt8) : List UInt8 :=
  let short := if key.length ≤ 64 then key else Sha256.digest key
  short ++ List.replicate (64 - short.length) 0

def hmacSha256 (key message : List UInt8) : List UInt8 :=
  let block := keyBlock key
  Sha256.digest (block.map (· ^^^ 0x5c) ++ Sha256.digest (block.map (· ^^^ 0x36) ++ message))

theorem length_hmacSha256 (key message : List UInt8) : (hmacSha256 key message).length = 32 :=
  Sha256.length_digest _

end TenantBilling.Digest
