import TenantBilling.Text.Utf8

/-! Texts and their bytes. Each character is read again from the one to four bytes it is written
with: the lead byte tells how many follow it, and the least value that needs so many is no greater
than the character. -/

namespace TenantBilling.Text.Utf8

variable {c : Char} {n : Nat}

theorem toNat_byte (h : n < 256) : (UInt8.ofNat n).toNat = n :=
  UInt8.toNat_ofNat_of_lt' h

theorem continuation?_byte (h : n < 64) : continuation? (UInt8.ofNat (n + 128)) = some n := by
  unfold continuation?
  rw [toNat_byte (by omega), if_pos (by omega), Nat.add_sub_cancel]

theorem scalar?_toNat {least : Nat} (h : least ≤ c.toNat) : scalar? least c.toNat = some c := by
  unfold scalar?
  rw [if_pos ⟨h, c.valid⟩, Char.ofNat_toNat]

theorem two?_bytes (least : 0x80 ≤ c.toNat) (greatest : c.toNat ≤ 0x7FF) :
    two? (UInt8.ofNat (c.toNat / 64 % 32 + 192)) (UInt8.ofNat (c.toNat % 64 + 128)) = some c := by
  have value : (c.toNat / 64 % 32 + 192 - 0xC0) * 64 + c.toNat % 64 = c.toNat := by omega
  simp only [two?, continuation?_byte (Nat.mod_lt _ (by decide : 64 > 0)), bind, Option.bind,
    toNat_byte (show c.toNat / 64 % 32 + 192 < 256 by omega), value, scalar?_toNat least]

theorem three?_bytes (least : 0x800 ≤ c.toNat) (greatest : c.toNat ≤ 0xFFFF) :
    three? (UInt8.ofNat (c.toNat / 4096 % 16 + 224)) (UInt8.ofNat (c.toNat / 64 % 64 + 128))
      (UInt8.ofNat (c.toNat % 64 + 128)) = some c := by
  have value : (c.toNat / 4096 % 16 + 224 - 0xE0) * 4096 + c.toNat / 64 % 64 * 64 +
      c.toNat % 64 = c.toNat := by omega
  simp only [three?, continuation?_byte (Nat.mod_lt _ (by decide : 64 > 0)), bind, Option.bind,
    toNat_byte (show c.toNat / 4096 % 16 + 224 < 256 by omega), value, scalar?_toNat least]

theorem four?_bytes (least : 0x10000 ≤ c.toNat) :
    four? (UInt8.ofNat (c.toNat / 262144 % 8 + 240)) (UInt8.ofNat (c.toNat / 4096 % 64 + 128))
      (UInt8.ofNat (c.toNat / 64 % 64 + 128)) (UInt8.ofNat (c.toNat % 64 + 128)) = some c := by
  have greatest : c.toNat < 0x110000 := by
    have valid : c.toNat.isValidChar := c.valid
    unfold Nat.isValidChar at valid
    omega
  have value : (c.toNat / 262144 % 8 + 240 - 0xF0) * 262144 + c.toNat / 4096 % 64 * 4096 +
      c.toNat / 64 % 64 * 64 + c.toNat % 64 = c.toNat := by omega
  simp only [four?, continuation?_byte (Nat.mod_lt _ (by decide : 64 > 0)), bind, Option.bind,
    toNat_byte (show c.toNat / 262144 % 8 + 240 < 256 by omega), value, scalar?_toNat least]

variable {lead b₁ b₂ b₃ : UInt8} (rest : List UInt8)

theorem decode?_one (least : lead.toNat < 0x80) :
    decode? (lead :: rest) = (decode? rest).map (Char.ofNat lead.toNat :: ·) := by
  rw [decode?.eq_def]
  dsimp only
  rw [if_pos least]

theorem decode?_two (least : 0xC0 ≤ lead.toNat) (greatest : lead.toNat < 0xE0) :
    decode? (lead :: b₁ :: rest) = (two? lead b₁).bind fun c => (decode? rest).map (c :: ·) := by
  rw [decode?.eq_def]
  dsimp only
  rw [if_neg (by omega), if_neg (by omega), if_pos greatest]

theorem decode?_three (least : 0xE0 ≤ lead.toNat) (greatest : lead.toNat < 0xF0) :
    decode? (lead :: b₁ :: b₂ :: rest) =
      (three? lead b₁ b₂).bind fun c => (decode? rest).map (c :: ·) := by
  rw [decode?.eq_def]
  dsimp only
  rw [if_neg (by omega), if_neg (by omega), if_neg (by omega), if_pos greatest]

theorem decode?_four (least : 0xF0 ≤ lead.toNat) (greatest : lead.toNat < 0xF8) :
    decode? (lead :: b₁ :: b₂ :: b₃ :: rest) =
      (four? lead b₁ b₂ b₃).bind fun c => (decode? rest).map (c :: ·) := by
  rw [decode?.eq_def]
  dsimp only
  rw [if_neg (by omega), if_neg (by omega), if_neg (by omega), if_neg (by omega), if_pos greatest]

/-- The bytes of a character by the number of them it takes. -/
theorem utf8EncodeChar_eq (c : Char) : String.utf8EncodeChar c =
    if c.toNat ≤ 0x7F then [UInt8.ofNat c.toNat]
    else if c.toNat ≤ 0x7FF then
      [UInt8.ofNat (c.toNat / 64 % 32 + 192), UInt8.ofNat (c.toNat % 64 + 128)]
    else if c.toNat ≤ 0xFFFF then
      [UInt8.ofNat (c.toNat / 4096 % 16 + 224), UInt8.ofNat (c.toNat / 64 % 64 + 128),
        UInt8.ofNat (c.toNat % 64 + 128)]
    else
      [UInt8.ofNat (c.toNat / 262144 % 8 + 240), UInt8.ofNat (c.toNat / 4096 % 64 + 128),
        UInt8.ofNat (c.toNat / 64 % 64 + 128), UInt8.ofNat (c.toNat % 64 + 128)] := rfl

/-- An ASCII character is its own byte. -/
theorem encode_cons_ascii (h : c.toNat < 0x80) (cs : List Char) :
    encode (c :: cs) = UInt8.ofNat c.toNat :: encode cs := by
  have single : String.utf8EncodeChar c = [UInt8.ofNat c.toNat] :=
    if_pos (Nat.le_of_lt_succ h)
  change String.utf8EncodeChar c ++ encode cs = _
  rw [single, List.singleton_append]

theorem length_le_encode (cs : List Char) : cs.length ≤ (encode cs).length := by
  induction cs with
  | nil => exact Nat.le_refl 0
  | cons c cs ih =>
    have first : 0 < (String.utf8EncodeChar c).length := by
      rw [String.length_utf8EncodeChar]
      exact c.utf8Size_pos
    change _ ≤ (String.utf8EncodeChar c ++ encode cs).length
    rw [List.length_append, List.length_cons]
    omega

/-- No byte of any other character is an ASCII character. -/
theorem le_toNat_of_mem {b : UInt8} (h : 0x80 ≤ c.toNat) (hb : b ∈ String.utf8EncodeChar c) :
    0x80 ≤ b.toNat := by
  have high {m : Nat} (least : 0x80 ≤ m) (greatest : m < 256) : 0x80 ≤ (UInt8.ofNat m).toNat := by
    rw [toNat_byte greatest]
    exact least
  rw [utf8EncodeChar_eq, if_neg (by omega)] at hb
  split at hb
  · simp only [List.mem_cons, List.not_mem_nil, or_false] at hb
    rcases hb with rfl | rfl <;> exact high (by omega) (by omega)
  · split at hb
    · simp only [List.mem_cons, List.not_mem_nil, or_false] at hb
      rcases hb with rfl | rfl | rfl <;> exact high (by omega) (by omega)
    · simp only [List.mem_cons, List.not_mem_nil, or_false] at hb
      rcases hb with rfl | rfl | rfl | rfl <;> exact high (by omega) (by omega)

/-- The byte of an ASCII character is among the bytes of a text exactly when the character is in
the text. -/
theorem mem_encode_iff_of_ascii (h : c.toNat < 0x80) {cs : List Char} :
    UInt8.ofNat c.toNat ∈ encode cs ↔ c ∈ cs := by
  have low := toNat_byte (show c.toNat < 256 by omega)
  constructor
  · intro mem
    obtain ⟨d, hd, byte⟩ := List.mem_flatMap.mp mem
    have ascii : d.toNat < 0x80 := by
      refine Nat.not_le.mp fun high => ?_
      have least := le_toNat_of_mem high byte
      omega
    rw [utf8EncodeChar_eq, if_pos (by omega), List.mem_singleton] at byte
    have same : c.toNat = d.toNat := by rw [← low, byte, toNat_byte (by omega)]
    rwa [Char.toNat_inj.mp same]
  · intro mem
    refine List.mem_flatMap.mpr ⟨c, mem, ?_⟩
    rw [utf8EncodeChar_eq, if_pos (by omega)]
    exact List.mem_cons_self

/-- A character is read first from its bytes, whatever follows them. -/
theorem decode?_append (c : Char) :
    decode? (String.utf8EncodeChar c ++ rest) = (decode? rest).map (c :: ·) := by
  rw [utf8EncodeChar_eq]
  by_cases one : c.toNat ≤ 0x7F
  · have lead := toNat_byte (show c.toNat < 256 by omega)
    rw [if_pos one]
    exact (decode?_one rest (by omega)).trans (by rw [lead, Char.ofNat_toNat])
  · rw [if_neg one]
    by_cases two : c.toNat ≤ 0x7FF
    · have lead := toNat_byte (show c.toNat / 64 % 32 + 192 < 256 by omega)
      rw [if_pos two]
      exact (decode?_two rest (by omega) (by omega)).trans
        (by rw [two?_bytes (by omega) two, Option.bind_some])
    · rw [if_neg two]
      by_cases three : c.toNat ≤ 0xFFFF
      · have lead := toNat_byte (show c.toNat / 4096 % 16 + 224 < 256 by omega)
        rw [if_pos three]
        exact (decode?_three rest (by omega) (by omega)).trans
          (by rw [three?_bytes (by omega) three, Option.bind_some])
      · have lead := toNat_byte (show c.toNat / 262144 % 8 + 240 < 256 by omega)
        rw [if_neg three]
        exact (decode?_four rest (by omega) (by omega)).trans
          (by rw [four?_bytes (by omega), Option.bind_some])

theorem decode?_encode (cs : List Char) : decode? (encode cs) = some cs := by
  induction cs with
  | nil => rfl
  | cons c cs ih =>
    have cons : encode (c :: cs) = String.utf8EncodeChar c ++ encode cs := rfl
    rw [cons, decode?_append, ih]
    rfl

theorem encode_injective {cs ds : List Char} (h : encode cs = encode ds) : cs = ds := by
  have read := decode?_encode cs
  rw [h, decode?_encode] at read
  exact (Option.some.inj read).symm

/-- A text is read again from its bytes. -/
theorem text?_bytes (s : String) : text? (bytes s) = some s := by
  unfold text? bytes
  rw [decode?_encode, Option.map_some, String.ofList_toList]

end TenantBilling.Text.Utf8
