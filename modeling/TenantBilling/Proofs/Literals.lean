import TenantBilling.Json.Writer
import TenantBilling.Proofs.Characters
import TenantBilling.Proofs.Numerals

/-! Texts and whole numbers as literals of a document. What is written of one is read up to the
byte behind it, and what is kept of the literal stands for the same text or number. -/

namespace TenantBilling.Json

open Text Utf8

variable {c : Char} {rest : List UInt8}

/-! ## Texts -/

namespace Piece

/-- The characters that are written as a letter behind a backslash. -/
def HasLetter (c : Char) : Prop :=
  c = '"' ∨ c = '\\' ∨ c = '\x08' ∨ c = '\x0c' ∨ c = '\n' ∨ c = '\r' ∨ c = '\t'

instance : Decidable (HasLetter c) := by unfold HasLetter; infer_instance

/-- What a literal keeps of a character it is written with. -/
def ofChar (c : Char) : List Piece :=
  if HasLetter c then [.escape c]
  else if c.toNat < 0x20 then [.unit c.toNat]
  else (String.utf8EncodeChar c).map .byte

/-- What a literal keeps of a text. -/
def ofText (s : String) : List Piece := s.toList.flatMap ofChar

theorem escaped_eq (h : ¬HasLetter c) : escaped c =
    if c.toNat < 0x20 then
      ['\\', 'u', '0', '0', Hex.digit (c.toNat / 16), Hex.digit (c.toNat % 16)]
    else [c] := by
  simp only [HasLetter, not_or] at h
  obtain ⟨h₁, h₂, h₃, h₄, h₅, h₆, h₇⟩ := h
  rw [escaped, if_neg h₁, if_neg h₂, if_neg h₃, if_neg h₄, if_neg h₅, if_neg h₆, if_neg h₇]

/-- What is kept of a character stands for its bytes. -/
theorem bytes?_ofChar (c : Char) (ps : List Piece) :
    bytes? (ofChar c ++ ps) = (bytes? ps).map (String.utf8EncodeChar c ++ ·) := by
  have plain (bs : List UInt8) : bytes? (bs.map .byte ++ ps) = (bytes? ps).map (bs ++ ·) := by
    induction bs with
    | nil => simp
    | cons b bs ih =>
      change (bytes? (bs.map .byte ++ ps)).map _ = _
      rw [ih, Option.map_map]
      rfl
  unfold ofChar
  split
  · rfl
  · split
    · rename_i control
      have high : isHighSurrogate c.toNat = false := by
        simp only [isHighSurrogate, Bool.and_eq_false_iff, decide_eq_false_iff_not]
        omega
      have low : isLowSurrogate c.toNat = false := by
        simp only [isLowSurrogate, Bool.and_eq_false_iff, decide_eq_false_iff_not]
        omega
      rw [List.singleton_append, bytes?.eq_def]
      dsimp only
      rw [high, low, Char.ofNat_toNat]
      rfl
    · exact plain _

/-- A text is read again from what is kept of its characters. -/
theorem text?_ofText (s : String) : text? (ofText s) = some s := by
  have whole (cs : List Char) : bytes? (cs.flatMap ofChar) = some (encode cs) := by
    induction cs with
    | nil => rfl
    | cons c cs ih =>
      rw [List.flatMap_cons, bytes?_ofChar, ih]
      rfl
  unfold text? ofText
  rw [whole, Option.bind_some]
  exact text?_bytes s

end Piece

namespace Tree

/-- Bytes that stand for themselves in a literal. -/
def Literally (b : UInt8) : Prop := b ≠ '"'.toUInt8 ∧ b ≠ '\\'.toUInt8 ∧ ¬b < 0x20

variable {ps : List Piece} {r : List UInt8}

theorem string?_bytes {bs : List UInt8} (h : ∀ b ∈ bs, Literally b)
    (hrest : string? rest = some (ps, r)) :
    string? (bs ++ rest) = some (bs.map .byte ++ ps, r) := by
  induction bs with
  | nil => exact hrest
  | cons b bs ih =>
    obtain ⟨quote, backslash, control⟩ := h b List.mem_cons_self
    rw [List.cons_append, string?.eq_def]
    dsimp only
    rw [if_neg quote, if_neg backslash, if_neg control,
      ih fun c hc => h c (List.mem_cons_of_mem _ hc)]
    rfl

/-- A letter behind a backslash is read as the character it stands for. -/
theorem string?_escape {e : UInt8} (h : escape? e = some c) (hrest : string? rest = some (ps, r)) :
    string? ('\\'.toUInt8 :: e :: rest) = some (.escape c :: ps, r) := by
  have unit : e ≠ 'u'.toUInt8 := by
    rintro rfl
    cases h
  rw [string?.eq_def]
  dsimp only
  rw [if_neg (by decide), if_pos rfl, if_neg unit, h, Option.bind_some, hrest]
  rfl

theorem string?_letter (h : Piece.HasLetter c) (hrest : string? rest = some (ps, r)) :
    string? (encode (escaped c) ++ rest) = some (.escape c :: ps, r) := by
  rcases h with rfl | rfl | rfl | rfl | rfl | rfl | rfl
  all_goals exact string?_escape rfl hrest

theorem hexDigit?_digit {n : Nat} (h : n < 16) :
    hexDigit? (UInt8.ofNat (Hex.digit n).toNat) = some n := by
  have all : ∀ k ∈ List.range 16, hexDigit? (UInt8.ofNat (Hex.digit k).toNat) = some k := by
    decide
  exact all n (List.mem_range.mpr h)

theorem toNat_digit_lt {n : Nat} (h : n < 16) : (Hex.digit n).toNat < 0x80 := by
  have all : ∀ k ∈ List.range 16, (Hex.digit k).toNat < 0x80 := by decide
  exact all n (List.mem_range.mpr h)

/-- The other control characters are read from their four hexadecimal digits. -/
theorem string?_control (letter : ¬Piece.HasLetter c) (control : c.toNat < 0x20)
    (hrest : string? rest = some (ps, r)) :
    string? (encode (escaped c) ++ rest) = some (.unit c.toNat :: ps, r) := by
  have high : c.toNat / 16 < 16 := by omega
  have low : c.toNat % 16 < 16 := by omega
  have value : unit? '0'.toUInt8 '0'.toUInt8 (UInt8.ofNat (Hex.digit (c.toNat / 16)).toNat)
      (UInt8.ofNat (Hex.digit (c.toNat % 16)).toNat) = some c.toNat := by
    have zero : hexDigit? '0'.toUInt8 = some 0 := by decide
    simp only [unit?, zero, hexDigit?_digit high, hexDigit?_digit low, bind, Option.bind, pure]
    congr 1
    omega
  have bytes : encode (escaped c) ++ rest = '\\'.toUInt8 :: 'u'.toUInt8 :: '0'.toUInt8 ::
      '0'.toUInt8 :: UInt8.ofNat (Hex.digit (c.toNat / 16)).toNat ::
        UInt8.ofNat (Hex.digit (c.toNat % 16)).toNat :: rest := by
    rw [Piece.escaped_eq letter, if_pos control]
    change _ :: _ :: _ :: _ :: (encode [_, _] ++ rest) = _
    rw [encode_cons_ascii (toNat_digit_lt high), encode_cons_ascii (toNat_digit_lt low)]
    rfl
  rw [bytes, string?.eq_def]
  dsimp only
  rw [if_neg (by decide), if_pos rfl, if_pos rfl, value, Option.bind_some, hrest]
  rfl

theorem literally_of_mem {b : UInt8} (letter : ¬Piece.HasLetter c) (control : ¬c.toNat < 0x20)
    (hb : b ∈ String.utf8EncodeChar c) : Literally b := by
  have value : b.toNat ≠ 0x22 ∧ b.toNat ≠ 0x5c ∧ 0x20 ≤ b.toNat := by
    by_cases ascii : c.toNat < 0x80
    · have quote : c.toNat ≠ '"'.toNat := fun h => letter (Or.inl (Char.toNat_inj.mp h))
      have backslash : c.toNat ≠ '\\'.toNat := fun h =>
        letter (Or.inr (Or.inl (Char.toNat_inj.mp h)))
      rw [utf8EncodeChar_eq, if_pos (by omega), List.mem_singleton] at hb
      rw [hb, toNat_byte (by omega)]
      exact ⟨quote, backslash, by omega⟩
    · have high := le_toNat_of_mem (by omega) hb
      omega
  refine ⟨?_, ?_, ?_⟩
  · rintro rfl
    exact value.1 rfl
  · rintro rfl
    exact value.2.1 rfl
  · exact fun h => absurd (UInt8.lt_iff_toNat_lt.mp h) (Nat.not_lt.mpr value.2.2)

/-- Every other character is read byte by byte. -/
theorem string?_plain (letter : ¬Piece.HasLetter c) (control : ¬c.toNat < 0x20)
    (hrest : string? rest = some (ps, r)) :
    string? (encode (escaped c) ++ rest) =
      some ((String.utf8EncodeChar c).map .byte ++ ps, r) := by
  have written : encode (escaped c) = String.utf8EncodeChar c := by
    rw [Piece.escaped_eq letter, if_neg control]
    exact List.append_nil _
  rw [written]
  exact string?_bytes (fun _ => literally_of_mem letter control) hrest

theorem string?_escaped (hrest : string? rest = some (ps, r)) :
    string? (encode (escaped c) ++ rest) = some (Piece.ofChar c ++ ps, r) := by
  unfold Piece.ofChar
  by_cases letter : Piece.HasLetter c
  · rw [if_pos letter]
    exact string?_letter letter hrest
  · rw [if_neg letter]
    by_cases control : c.toNat < 0x20
    · rw [if_pos control]
      exact string?_control letter control hrest
    · rw [if_neg control]
      exact string?_plain letter control hrest

/-- A text is read up to its closing quote. -/
theorem string?_quoted (s : String) :
    string? (encode (s.toList.flatMap escaped ++ ['"']) ++ rest) =
      some (Piece.ofText s, rest) := by
  unfold Piece.ofText
  rw [encode_append, List.append_assoc]
  induction s.toList with
  | nil =>
    change string? ('"'.toUInt8 :: rest) = _
    rw [string?.eq_def]
    rfl
  | cons c cs ih =>
    rw [List.flatMap_cons, encode_append, List.append_assoc]
    exact string?_escaped ih

end Tree

/-! ## Whole numbers -/

namespace Literal

/-- The values of decimal digits. -/
def valuesOf (cs : List Char) : List Nat := cs.map fun c => c.toNat - '0'.toNat

theorem valueOf_valuesOf (cs : List Char) : valueOf (valuesOf cs) = Nat.ofDigitChars 10 cs 0 := by
  unfold valueOf valuesOf
  generalize 0 = n
  induction cs generalizing n with
  | nil => rfl
  | cons c cs ih => exact ih _

end Literal

/-- The literal a whole number is written as; no double has one here. -/
def Number.literal : Number → Literal
  | .int (.ofNat n) => ⟨false, Literal.valuesOf (Nat.toDigits 10 n), [], none⟩
  | .int (.negSucc n) => ⟨true, Literal.valuesOf (Nat.toDigits 10 (n + 1)), [], none⟩
  | .float _ => ⟨false, [], [], none⟩

namespace Tree

/-- Whether nothing behind a value can belong to it. -/
def Ends (rest : List UInt8) : Prop :=
  ∀ b ∈ rest.head?, b = ','.toUInt8 ∨ b = ']'.toUInt8 ∨ b = 0x7d

theorem digit?_byte (h : c.isDigit = true) :
    digit? (UInt8.ofNat c.toNat) = some (c.toNat - '0'.toNat) := by
  have range := Numeral.toNat_of_isDigit h
  unfold digit?
  rw [toNat_byte (by omega), if_pos range]
  rfl

/-- Digits are read up to the last of them. -/
theorem digits_encode {cs : List Char} (h : ∀ c ∈ cs, c.isDigit = true) (ends : Ends rest) :
    digits (encode cs ++ rest) = (Literal.valuesOf cs, rest) := by
  induction cs with
  | nil =>
    cases rest with
    | nil => rfl
    | cons b r =>
      have stop : digit? b = none := by
        rcases ends b rfl with rfl | rfl | rfl <;> rfl
      change digits (b :: r) = _
      rw [digits, stop]
      rfl
  | cons c cs ih =>
    have first := h c List.mem_cons_self
    have range := Numeral.toNat_of_isDigit first
    rw [encode_cons_ascii (by omega), List.cons_append, digits, digit?_byte first,
      ih fun d hd => h d (List.mem_cons_of_mem _ hd)]
    rfl

theorem fraction?_of_ends (ends : Ends rest) : fraction? rest = some ([], rest) := by
  cases rest with
  | nil => rfl
  | cons b r => rcases ends b rfl with rfl | rfl | rfl <;> rfl

theorem exponent?_of_ends (ends : Ends rest) : exponent? rest = some (none, rest) := by
  cases rest with
  | nil => rfl
  | cons b r => rcases ends b rfl with rfl | rfl | rfl <;> rfl

theorem unsigned?_toDigits (negative : Bool) (n : Nat) (ends : Ends rest) :
    unsigned? negative (encode (Nat.toDigits 10 n) ++ rest) =
      some (⟨negative, Literal.valuesOf (Nat.toDigits 10 n), [], none⟩, rest) := by
  have read := digits_encode (fun _ => Numeral.isDigit_of_mem n) ends
  obtain ⟨c, cs, digits, lead, single⟩ := Numeral.toDigits_eq_cons n
  have alone : c.toNat - '0'.toNat = 0 → cs = [] := by
    intro zero
    have range := Numeral.toNat_of_isDigit lead
    change c.toNat - 48 = 0 at zero
    have same : c.toNat = '0'.toNat := by
      change c.toNat = 48
      omega
    exact single (Char.toNat_inj.mp same)
  unfold unsigned?
  rw [read, digits]
  split
  · rename_i empty
    cases empty
  · rename_i zero
    obtain ⟨whole, -⟩ := Prod.mk.inj zero
    obtain ⟨zero, others⟩ := List.cons.inj whole
    rw [alone zero] at others
    cases others
  · rename_i whole
    obtain ⟨rfl, rfl⟩ := Prod.mk.inj whole
    simp only [fraction?_of_ends ends, exponent?_of_ends ends, bind, Option.bind, pure]

/-- A whole number is read up to its last digit. -/
theorem literal?_decimal (n : Int) (ends : Ends rest) :
    literal? (encode (Numeral.decimal n) ++ rest) = some ((Number.int n).literal, rest) := by
  cases n with
  | ofNat n =>
    have read := unsigned?_toDigits false n ends
    change literal? (encode (Nat.toDigits 10 n) ++ rest) = _
    obtain ⟨c, cs, digits, lead, -⟩ := Numeral.toDigits_eq_cons n
    have range := Numeral.toNat_of_isDigit lead
    have sign : UInt8.ofNat c.toNat ≠ '-'.toUInt8 := by
      intro h
      have value := congrArg UInt8.toNat h
      rw [toNat_byte (by omega)] at value
      change c.toNat = 45 at value
      omega
    rw [digits, encode_cons_ascii (by omega), List.cons_append] at read ⊢
    rw [literal?, if_neg sign, read, ← digits]
    rfl
  | negSucc n =>
    exact unsigned?_toDigits true (n + 1) ends

/-- The bytes that a number can begin with. -/
def openers : List UInt8 :=
  [0x2d, 0x30, 0x31, 0x32, 0x33, 0x34, 0x35, 0x36, 0x37, 0x38, 0x39]

theorem decimal_opens (n : Int) : ∃ b ∈ openers, ∃ r, encode (Numeral.decimal n) = b :: r := by
  have digit {c : Char} (h : c.isDigit = true) : UInt8.ofNat c.toNat ∈ openers := by
    have range := Numeral.toNat_of_isDigit h
    have all : ∀ k ∈ List.range 58, 48 ≤ k → UInt8.ofNat k ∈ openers := by decide
    exact all _ (List.mem_range.mpr (by omega)) range.1
  cases n with
  | ofNat n =>
    obtain ⟨c, cs, digits, lead, -⟩ := Numeral.toDigits_eq_cons n
    have range := Numeral.toNat_of_isDigit lead
    refine ⟨_, digit lead, encode cs, ?_⟩
    change encode (Nat.toDigits 10 n) = _
    rw [digits, encode_cons_ascii (by omega)]
  | negSucc n => exact ⟨_, by decide, _, rfl⟩

end Tree

/-- The number of a literal that a whole number within range is written as. -/
theorem Literal.number?_int {n : Int} (least : int64Least ≤ n) (greatest : n ≤ nat64Greatest) :
    (Number.int n).literal.number? = some (.int n) := by
  have value (n : Nat) : valueOf (valuesOf (Nat.toDigits 10 n)) = n :=
    (valueOf_valuesOf _).trans Nat.ofDigitChars_ten_toDigits
  cases n with
  | ofNat n =>
    have fits : n ≤ nat64Greatest := Int.ofNat_le.mp greatest
    simp only [Number.literal, number?, value, and_self, if_true, Bool.false_eq_true, if_false,
      if_pos fits]
    rfl
  | negSucc n =>
    have fits : 0 < n + 1 ∧ n + 1 ≤ 9223372036854775808 := by
      unfold int64Least at least
      omega
    simp only [Number.literal, number?, value, and_self, if_true, if_pos fits]
    rfl

end TenantBilling.Json
