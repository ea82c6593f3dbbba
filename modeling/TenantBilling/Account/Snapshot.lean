import TenantBilling.Account.Basic
import TenantBilling.Text.Hex

/-! Usage snapshots: the lifetime counters of an organization when a billing period was first
seen, kept as the baseline that the usage of that period is counted from. -/

namespace TenantBilling

open Calendar

/-- A 128-bit identifier. -/
structure Uuid where
  bits : BitVec 128
deriving DecidableEq, Inhabited

namespace Uuid

/-- The thirty-two digits of an identifier, most significant first. -/
def digits (u : Uuid) : List Char :=
  (List.range 32).map fun i => Text.Hex.digit (u.bits.toNat / Nat.pow 16 (31 - i) % 16)

/-- Digits in groups of 8, 4, 4, 4 and 12. -/
def chars (u : Uuid) : List Char :=
  let d := u.digits
  d.take 8 ++ '-' :: (d.drop 8).take 4 ++ '-' :: (d.drop 12).take 4 ++ '-' :: (d.drop 16).take 4 ++
    '-' :: d.drop 20

def text (u : Uuid) : String := String.ofList u.chars

/-- The identifier of thirty-two digits of either case. -/
def ofDigits? (cs : List Char) : Option Uuid :=
  if cs.length = 32 then
    (cs.mapM Text.Hex.digit?).map fun ds => ⟨BitVec.ofNat 128 (ds.foldl (fun n d => 16 * n + d) 0)⟩
  else none

/-- Removes the hyphens of the grouped form, which have to stand in their places. -/
def ofGroups? (cs : List Char) : Option Uuid :=
  if cs.length = 36 ∧ cs[8]? = some '-' ∧ cs[13]? = some '-' ∧ cs[18]? = some '-' ∧
      cs[23]? = some '-' then
    ofDigits? (cs.take 8 ++ (cs.drop 9).take 4 ++ (cs.drop 14).take 4 ++ (cs.drop 19).take 4 ++
      cs.drop 24)
  else none

/-- Reads bare digits, groups, groups in braces and groups behind `urn:uuid:` in either case. -/
def ofChars? (cs : List Char) : Option Uuid :=
  let urn := "urn:uuid:".toList
  if cs.length = 32 then ofDigits? cs
  else if cs.length = 36 then ofGroups? cs
  else if cs.length = 38 ∧ cs.head? = some '\x7b' ∧ cs.getLast? = some '\x7d' then
    ofGroups? ((cs.drop 1).take 36)
  else if cs.length = 45 ∧ (cs.take 9).map Char.toLower = urn then ofGroups? (cs.drop 9)
  else none

def ofText? (s : String) : Option Uuid := ofChars? s.toList

end Uuid

structure Snapshot where
  id : Uuid
  address : String
  periodStart : DateTime
  periodEnd : DateTime
  period : BillingPeriod
  baseline : Counters
  createdAt : DateTime
deriving DecidableEq

/-- What a snapshot is found by: an organization and the instant its period started. -/
structure SnapshotKey where
  address : String
  start : Int
deriving DecidableEq

namespace SnapshotKey

def before (a b : SnapshotKey) : Bool :=
  Key.before a.address b.address || (a.address == b.address && Key.before a.start b.start)

instance : Key SnapshotKey where
  before := before
  irrefl a := by simp [before, Key.irrefl]
  trans a b c hab hbc := by
    simp only [before, Bool.or_eq_true, Bool.and_eq_true, beq_iff_eq] at hab hbc ⊢
    rcases hab with hab | ⟨hab, hs⟩ <;> rcases hbc with hbc | ⟨hbc, ht⟩
    · exact Or.inl (Key.trans _ _ _ hab hbc)
    · exact Or.inl (hbc ▸ hab)
    · exact Or.inl (hab ▸ hbc)
    · exact Or.inr ⟨hab.trans hbc, Key.trans _ _ _ hs ht⟩
  connected a b hab hba := by
    simp only [before, Bool.or_eq_false_iff, Bool.and_eq_false_iff, beq_eq_false_iff_ne, ne_eq]
      at hab hba
    have haddress := Key.connected _ _ hab.1 hba.1
    have hstart : a.start = b.start := by
      rcases hab.2 with h | h
      · exact absurd haddress h
      · rcases hba.2 with h' | h'
        · exact absurd haddress.symm h'
        · exact Key.connected _ _ h h'
    cases a
    cases b
    simp_all

end SnapshotKey

def Snapshot.key (s : Snapshot) : SnapshotKey := ⟨s.address, s.periodStart.instant⟩

end TenantBilling
