import TenantBilling.Proofs.Fields

/-! Moments and identifiers read again. The three parts of an offset carry its sign, and the
digits of an identifier its bits, most significant first. -/

namespace TenantBilling

open Text Calendar Json

namespace Encoding

theorem offsetSeconds_natCast (h m s : Nat) : offsetSeconds h m s = 3600 * h + 60 * m + s := by
  unfold offsetSeconds
  simp only [Int.natAbs_natCast]
  rcases Nat.eq_zero_or_pos h with rfl | hours
  · rcases Nat.eq_zero_or_pos m with rfl | minutes
    · rcases Nat.eq_zero_or_pos s with rfl | seconds
      · rfl
      · simp [Int.sign_eq_one_of_pos (Int.natCast_pos.mpr seconds)]
    · simp [Nat.ne_of_gt minutes, Int.sign_eq_one_of_pos (Int.natCast_pos.mpr minutes)]
  · simp [Nat.ne_of_gt hours, Int.sign_eq_one_of_pos (Int.natCast_pos.mpr hours)]

theorem offsetSeconds_neg (h m s : Int) : offsetSeconds (-h) (-m) (-s) = -offsetSeconds h m s := by
  unfold offsetSeconds
  simp only [Int.natAbs_neg, Int.sign_neg, Int.neg_ne_zero]
  by_cases hours : h = 0
  · by_cases minutes : m = 0
    · simp only [hours, minutes, ne_eq, not_true, if_false, Int.neg_mul]
    · simp only [hours, minutes, ne_eq, not_true, not_false_iff, if_true, if_false, Int.neg_mul]
  · simp only [hours, ne_eq, not_false_iff, if_true, Int.neg_mul]

/-- What an offset is written as: its hours, minutes and seconds are within their ranges, and the
offset is read again from them. -/
structure OffsetParts (n hours minutes seconds : Int) : Prop where
  hours_ge : -25 ≤ hours
  hours_le : hours ≤ 25
  minutes_ge : -59 ≤ minutes
  minutes_le : minutes ≤ 59
  seconds_ge : -59 ≤ seconds
  seconds_le : seconds ≤ 59
  read : offsetSeconds hours minutes seconds = n

theorem OffsetParts.neg {n h m s : Int} (parts : OffsetParts n h m s) :
    OffsetParts (-n) (-h) (-m) (-s) := by
  obtain ⟨_, _, _, _, _, _, read⟩ := parts
  refine ⟨by omega, by omega, by omega, by omega, by omega, by omega, ?_⟩
  rw [offsetSeconds_neg, read]

theorem offsetParts {n : Int} (ge : -93599 ≤ n) (le : n ≤ 93599) :
    OffsetParts n (n.tdiv 3600) ((n.tdiv 60).tmod 60) (n.tmod 60) := by
  have nonneg {n : Nat} (le : n ≤ 93599) :
      OffsetParts n ((n : Int).tdiv 3600) (((n : Int).tdiv 60).tmod 60) ((n : Int).tmod 60) := by
    have whole : 3600 * ((n / 3600 : Nat) : Int) + 60 * ((n / 60 % 60 : Nat) : Int) +
        ((n % 60 : Nat) : Int) = n := by omega
    change OffsetParts n (n / 3600 : Nat) (n / 60 % 60 : Nat) (n % 60 : Nat)
    exact ⟨by omega, by omega, by omega, by omega, by omega, by omega,
      (offsetSeconds_natCast _ _ _).trans whole⟩
  obtain ⟨n, rfl | rfl⟩ := n.eq_nat_or_neg
  · exact nonneg (by omega)
  · rw [Int.neg_tdiv, Int.neg_tdiv, Int.neg_tmod, Int.neg_tmod]
    exact (nonneg (by omega)).neg

/-- A moment is read again with its offset. -/
theorem dateTime?_site (t : DateTime) (depth : Nat) :
    dateTime? ((ofDateTime t).site (depth + 1)) = some t := by
  have yearGe : leastYear ≤ t.year := t.date.year_ge
  have yearLe : t.year ≤ greatestYear := t.date.year_le
  have ordinalPos := t.date.ordinal_pos
  have ordinalLe : t.date.ordinal ≤ 366 := by
    refine Nat.le_trans t.date.ordinal_le ?_
    unfold daysInYear
    split <;> decide
  have date : Date.ofOrdinal? t.year t.date.ordinal = some t.date :=
    dif_pos ⟨t.date.year_ge, t.date.year_le, t.date.ordinal_pos, t.date.ordinal_le⟩
  have secondLt := t.second_lt
  have nanoLt := t.nano_lt
  have clock : (3600 * ((t.second : Int) / 3600) + 60 * ((t.second : Int) / 60 % 60) +
      (t.second : Int) % 60).toNat = t.second := by omega
  obtain ⟨_, _, _, _, _, _, seconds⟩ := offsetParts t.offset.ge t.offset.le
  have offset : Offset.ofSeconds? t.offset.seconds = some t.offset :=
    dif_pos ⟨t.offset.ge, t.offset.le⟩
  unfold dateTime? ofDateTime
  rw [Site.elements?_site]
  -- outermost first: what follows a number is visited once the number is known
  simp (disch := first | omega | decide) only [↓Option.bind_eq_bind, ↓Option.bind_some,
    ↓Site.bind_within?_site, List.map_cons, List.map_nil, Int.toNat_natCast, date, seconds, offset,
    clock]
  exact dif_pos ⟨secondLt, nanoLt⟩

end Encoding

namespace Uuid

/-- The digits of a number in base sixteen, as many as are asked for, are worth its last digits. -/
theorem foldl_digits (count n : Nat) :
    ((List.range count).map fun i => n / Nat.pow 16 (count - 1 - i) % 16).foldl
      (fun n d => 16 * n + d) 0 = n % Nat.pow 16 count := by
  induction count generalizing n with
  | zero => exact (Nat.mod_one n).symm
  | succ count ih =>
    have shift : (List.range count).map (fun i => n / Nat.pow 16 (count + 1 - 1 - i) % 16) =
        (List.range count).map fun i => n / 16 / Nat.pow 16 (count - 1 - i) % 16 := by
      refine List.map_congr_left fun i hi => ?_
      have below := List.mem_range.mp hi
      have exponent : count + 1 - 1 - i = (count - 1 - i) + 1 := by omega
      have power : Nat.pow 16 ((count - 1 - i) + 1) = 16 * Nat.pow 16 (count - 1 - i) :=
        Nat.mul_comm _ _
      rw [exponent, power, ← Nat.div_div_eq_div_mul]
    have last : n / Nat.pow 16 (count + 1 - 1 - count) % 16 = n % 16 := by
      rw [Nat.add_sub_cancel, Nat.sub_self]
      exact congrArg (· % 16) (Nat.div_one n)
    have power : Nat.pow 16 (count + 1) = 16 * Nat.pow 16 count := Nat.mul_comm _ _
    rw [List.range_succ, List.map_append, List.foldl_append, shift, ih, List.map_cons,
      List.map_nil, List.foldl_cons, List.foldl_nil, last, power, Nat.mod_mul, Nat.add_comm]

theorem length_digits (u : Uuid) : u.digits.length = 32 := by
  unfold digits
  rw [List.length_map, List.length_range]

theorem ofDigits?_digits (u : Uuid) : ofDigits? u.digits = some u := by
  have digit (i : Nat) : Hex.digit? (Hex.digit (u.bits.toNat / Nat.pow 16 (31 - i) % 16)) =
      some (u.bits.toNat / Nat.pow 16 (31 - i) % 16) :=
    Hex.digit?_digit _ (Nat.mod_lt _ (by decide))
  have read : u.digits.mapM Hex.digit? =
      some ((List.range 32).map fun i => u.bits.toNat / Nat.pow 16 (32 - 1 - i) % 16) := by
    unfold digits
    rw [List.mapM_map]
    simp only [Function.comp_def, digit]
    exact List.mapM_pure
  have whole : u.bits.toNat % Nat.pow 16 32 = u.bits.toNat := Nat.mod_eq_of_lt u.bits.isLt
  unfold ofDigits?
  rw [if_pos u.length_digits, read, Option.map_some, foldl_digits, whole, BitVec.ofNat_toNat,
    BitVec.setWidth_eq]

section Groups
variable {cs p r : List Char} {i n : Nat} (h : cs.drop i = p ++ '-' :: r) (hp : p.length = n)
include h hp

theorem take_group : (cs.drop i).take n = p := by
  rw [h, ← hp, List.take_left]

theorem hyphen_behind : cs[i + n]? = some '-' := by
  rw [← List.getElem?_drop, h, ← hp, List.getElem?_append_right (Nat.le_refl _), Nat.sub_self]
  rfl

theorem drop_group : cs.drop (i + (n + 1)) = r := by
  rw [← List.drop_drop, h, ← hp, ← List.drop_drop, List.drop_left]
  rfl

end Groups

/-- Groups of digits are read as the digits without the hyphens between them. -/
theorem ofGroups?_groups {a b c d e : List Char} (ha : a.length = 8) (hb : b.length = 4)
    (hc : c.length = 4) (hd : d.length = 4) (he : e.length = 12) :
    ofGroups? (a ++ '-' :: (b ++ '-' :: (c ++ '-' :: (d ++ '-' :: e)))) =
      ofDigits? (a ++ b ++ c ++ d ++ e) := by
  generalize written : a ++ '-' :: (b ++ '-' :: (c ++ '-' :: (d ++ '-' :: e))) = cs
  have first : cs.drop 0 = a ++ '-' :: (b ++ '-' :: (c ++ '-' :: (d ++ '-' :: e))) := written.symm
  have second : cs.drop 9 = b ++ '-' :: (c ++ '-' :: (d ++ '-' :: e)) := drop_group first ha
  have third : cs.drop 14 = c ++ '-' :: (d ++ '-' :: e) := drop_group second hb
  have fourth : cs.drop 19 = d ++ '-' :: e := drop_group third hc
  have fifth : cs.drop 24 = e := drop_group fourth hd
  have hyphens : cs[8]? = some '-' ∧ cs[13]? = some '-' ∧ cs[18]? = some '-' ∧
      cs[23]? = some '-' :=
    ⟨hyphen_behind first ha, hyphen_behind second hb, hyphen_behind third hc,
      hyphen_behind fourth hd⟩
  have length : cs.length = 36 := by
    rw [← written]
    simp only [List.length_append, List.length_cons]
    omega
  have head : cs.take 8 = a := take_group first ha
  unfold ofGroups?
  rw [if_pos ⟨length, hyphens⟩, head, take_group second hb, take_group third hc,
    take_group fourth hd, fifth]

/-- An identifier is read again from its text. -/
theorem ofText?_text (u : Uuid) : ofText? u.text = some u := by
  have digits := u.length_digits
  have parted (i n : Nat) :
      (u.digits.drop i).take n ++ u.digits.drop (i + n) = u.digits.drop i := by
    rw [← List.drop_drop, List.take_append_drop]
  have joined : u.digits.take 8 ++ (u.digits.drop 8).take 4 ++ (u.digits.drop 12).take 4 ++
      (u.digits.drop 16).take 4 ++ u.digits.drop 20 = u.digits := by
    rw [List.append_assoc, parted 16 4, List.append_assoc, parted 12 4, List.append_assoc,
      parted 8 4, List.take_append_drop]
  have groups : ofGroups? u.chars = ofDigits? u.digits := by
    have written : u.chars = u.digits.take 8 ++ '-' :: ((u.digits.drop 8).take 4 ++ '-' ::
        ((u.digits.drop 12).take 4 ++ '-' :: ((u.digits.drop 16).take 4 ++ '-' ::
          u.digits.drop 20))) := by
      simp only [chars, List.append_assoc, List.cons_append]
    rw [written, ofGroups?_groups (by simp [digits]) (by simp [digits]) (by simp [digits])
      (by simp [digits]) (by simp [digits]), joined]
  have length : u.chars.length = 36 := by
    unfold chars
    simp [digits]
  unfold ofText? text
  rw [String.toList_ofList]
  unfold ofChars?
  dsimp only
  rw [if_neg (by omega), if_pos length, groups, ofDigits?_digits]

end Uuid

end TenantBilling
