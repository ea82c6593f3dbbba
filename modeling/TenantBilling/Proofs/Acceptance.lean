import Mathlib.Data.List.Induction
import TenantBilling.Proofs.Numerals
import TenantBilling.Provider

/-! Which headers are accepted. A header is read part by part, and what comes of it depends on the
values under two keys alone: the last time, and the candidates in any order. So a header that is
accepted stays accepted when parts are added to it or moved, as long as its times are left alone. -/

namespace TenantBilling.Signature

open Text

/-- The parts of a header that have a key, cut behind it. -/
def fields (header : String) : List (List Char × List Char) :=
  (splitAll ',' header.toList).filterMap fun part => splitFirst? '=' (trimChars part)

/-- The values under a key, in their order. -/
def valuesOf (key : String) (fields : List (List Char × List Char)) : List (List Char) :=
  (fields.filter fun f => f.1 = key.toList).map (·.2)

/-- What a header has to say of a body: the last time it names is a number and near the present,
and one of its candidates is the keyed digest of that time and the body. -/
def Genuine (payload : List UInt8) (header secret : String) (tolerance now : Int) : Prop :=
  ∃ value timestamp, (valuesOf "t" (fields header)).getLast? = some value ∧
    Numeral.int64? value = some timestamp ∧ (now - timestamp).natAbs ≤ tolerance.natAbs ∧
    ∃ candidate ∈ valuesOf "v1" (fields header), Hex.decode? candidate =
      some (Digest.hmacSha256 (Utf8.bytes secret)
        (Utf8.bytes (decimal timestamp) ++ '.'.toUInt8 :: payload))

/-- The fields of one header are all in another one, and its times are in their order the times of
the other one, too. -/
structure Widens (header other : String) : Prop where
  kept : ∀ f ∈ fields header, f ∈ fields other
  times : valuesOf "t" (fields other) = valuesOf "t" (fields header)

/-! ## Reading a header -/

theorem valuesOf_append (key : String) (past more : List (List Char × List Char)) :
    valuesOf key (past ++ more) = valuesOf key past ++ valuesOf key more := by
  unfold valuesOf
  rw [List.filter_append, List.map_append]

theorem fields_append (header more : String) :
    fields (header ++ "," ++ more) = fields header ++ fields more := by
  unfold fields
  have text : (header ++ "," ++ more).toList = header.toList ++ ',' :: more.toList := by simp
  rw [text, splitAll_append, List.filterMap_append]

theorem mem_valuesOf {key : String} {fs : List (List Char × List Char)} {value : List Char} :
    value ∈ valuesOf key fs ↔ (key.toList, value) ∈ fs := by
  simp [valuesOf]

theorem valuesOf_singleton (key : String) (f : List Char × List Char) :
    valuesOf key [f] = if f.1 = key.toList then [f.2] else [] := by
  by_cases h : f.1 = key.toList <;> simp [valuesOf, h]

/-- The header that is read from its fields: the last time and all candidates. -/
def ofFields (fs : List (List Char × List Char)) : Header :=
  ⟨(valuesOf "t" fs).getLast?.bind Numeral.int64?, valuesOf "v1" fs⟩

theorem ofFields_concat (past : List (List Char × List Char)) (f : List Char × List Char) :
    ofFields (past ++ [f]) =
      if f.1 = "t".toList then { ofFields past with timestamp := Numeral.int64? f.2 }
      else if f.1 = "v1".toList then
        { ofFields past with candidates := (ofFields past).candidates ++ [f.2] }
      else ofFields past := by
  unfold ofFields
  rw [valuesOf_append, valuesOf_append, valuesOf_singleton, valuesOf_singleton]
  by_cases time : f.1 = "t".toList
  · have candidate : f.1 ≠ "v1".toList := by
      rw [time]
      decide
    rw [if_pos time, if_pos time, if_neg candidate, List.getLast?_concat, List.append_nil]
    rfl
  · rw [if_neg time, if_neg time, List.append_nil]
    by_cases candidate : f.1 = "v1".toList
    · rw [if_pos candidate, if_pos candidate]
    · rw [if_neg candidate, if_neg candidate, List.append_nil]

/-- A part of a header is read for its field, if it has one. -/
theorem read_ofFields (past : List (List Char × List Char)) (part : List Char) :
    (ofFields past).read part =
      ofFields (past ++ (splitFirst? '=' (trimChars part)).toList) := by
  unfold Header.read
  split
  · rename_i value cut
    rw [cut, Option.toList_some, ofFields_concat]
    exact (if_pos rfl).symm
  · rename_i value cut
    have time : ['v', '1'] ≠ "t".toList := by decide
    rw [cut, Option.toList_some, ofFields_concat, if_neg time]
    exact (if_pos rfl).symm
  · rename_i notTime notCandidate
    cases cut : splitFirst? '=' (trimChars part) with
    | none => rw [Option.toList_none, List.append_nil]
    | some f =>
      obtain ⟨key, value⟩ := f
      have time : key ≠ "t".toList := by
        rintro rfl
        exact notTime value cut
      have candidate : key ≠ "v1".toList := by
        rintro rfl
        exact notCandidate value cut
      rw [Option.toList_some, ofFields_concat, if_neg time, if_neg candidate]

/-- Reading a header is reading its fields. -/
theorem ofText_eq (header : String) : Header.ofText header = ofFields (fields header) := by
  unfold Header.ofText fields
  induction splitAll ',' header.toList using List.reverseRecOn with
  | nil => rfl
  | append_singleton past part ih =>
    rw [List.foldl_append, ih, List.filterMap_append, List.foldl_cons, List.foldl_nil,
      read_ofFields]
    cases cut : splitFirst? '=' (trimChars part) <;> simp [cut]

/-! ## Acceptance -/

variable {payload : List UInt8} {header other secret : String} {tolerance now : Int}

theorem accepts_iff : accepts payload header secret tolerance now = true ↔
    Genuine payload header secret tolerance now := by
  have message (timestamp : Int) : message timestamp payload =
      Utf8.bytes (decimal timestamp) ++ '.'.toUInt8 :: payload := by
    unfold Signature.message Utf8.bytes decimal
    rw [String.toList_ofList]
  unfold accepts Genuine
  rw [ofText_eq]
  unfold ofFields isTimely compute
  simp only [message]
  cases last : (valuesOf "t" (fields header)).getLast? with
  | none => simp
  | some value =>
    cases read : Numeral.int64? value <;> simp [read]

theorem verify_of_not_genuine (h : ¬Genuine payload header secret tolerance now) :
    verify payload header secret tolerance now = .error .signatureInvalid := by
  unfold verify
  rw [if_neg fun accepted => h (accepts_iff.mp accepted)]

theorem Genuine.widen (h : Genuine payload header secret tolerance now)
    (wider : Widens header other) : Genuine payload other secret tolerance now := by
  obtain ⟨value, timestamp, last, read, timely, candidate, listed, digest⟩ := h
  refine ⟨value, timestamp, wider.times ▸ last, read, timely, candidate, ?_, digest⟩
  exact mem_valuesOf.mpr (wider.kept _ (mem_valuesOf.mp listed))

/-- A header is widened by what stands before it and after it and names no time. -/
theorem widens_between {before after : String} (header : String)
    (hbefore : valuesOf "t" (fields before) = []) (hafter : valuesOf "t" (fields after) = []) :
    Widens header (before ++ "," ++ header ++ "," ++ after) := by
  have all : fields (before ++ "," ++ header ++ "," ++ after) =
      fields before ++ fields header ++ fields after := by
    rw [fields_append, fields_append]
  refine ⟨fun f hf => ?_, ?_⟩
  · rw [all]
    exact List.mem_append_left _ (List.mem_append_right _ hf)
  · rw [all, valuesOf_append, valuesOf_append, hbefore, hafter, List.nil_append, List.append_nil]

/-- A body that cannot be read is no reason to doubt its signature. -/
theorem parse_ne_signatureInvalid (payload : List UInt8) :
    Event.parse payload ≠ .error .signatureInvalid := by
  unfold Event.parse Event.parseWith
  cases Event.ofPayload payload <;> exact nofun

/-- A header is accepted exactly when it is genuine, and every other one is refused for its
signature; an accepted header stays accepted when parts are added or moved and its times are left
alone; and a delivery is read as its body is read exactly when its header is genuine. -/
theorem verify_iff_genuine (payload : List UInt8) (header secret : String) (tolerance now : Int) :
    (verify payload header secret tolerance now = .ok () ↔
        Genuine payload header secret tolerance now) ∧
      (¬Genuine payload header secret tolerance now →
        verify payload header secret tolerance now = .error .signatureInvalid) ∧
      (∀ other, Widens header other → verify payload header secret tolerance now = .ok () →
        verify payload other secret tolerance now = .ok ()) ∧
      (constructEvent payload header secret tolerance now = Event.parse payload ↔
        Genuine payload header secret tolerance now) := by
  have accepted (header : String) : verify payload header secret tolerance now = .ok () ↔
      Genuine payload header secret tolerance now := (verify_eq_ok_iff ..).trans accepts_iff
  refine ⟨accepted header, verify_of_not_genuine, fun other wider h => ?_, ?_, ?_⟩
  · exact (accepted other).mpr (((accepted header).mp h).widen wider)
  · intro read
    by_contra forged
    unfold constructEvent at read
    rw [verify_of_not_genuine forged] at read
    exact parse_ne_signatureInvalid payload read.symm
  · intro genuine
    unfold constructEvent
    rw [(accepted header).mpr genuine]
    rfl

/-! ## Signed headers -/

/-- A character that neither cuts a header nor is trimmed. -/
def isPlain (c : Char) : Bool := !isBlank c && c != ','

theorem plain_decimal (n : Int) : (Numeral.decimal n).all isPlain = true := by
  refine List.all_eq_true.mpr fun c hc => ?_
  rcases Numeral.mem_decimal hc with digit | rfl
  · have comma : c ≠ ',' := by
      rintro rfl
      cases digit
    simp [isPlain, isBlank_of_isDigit digit, comma]
  · decide

theorem plain_hex (bytes : List UInt8) : (Hex.encode bytes).all isPlain = true := by
  have digits : Hex.digits.all isPlain = true := by decide
  exact List.all_eq_true.mpr fun c hc =>
    List.all_eq_true.mp digits c (Hex.mem_digits_of_mem_encode hc)

/-- A part of plain characters is one field. -/
theorem fields_part {key value : List Char} (hkey : key.all isPlain = true)
    (hvalue : value.all isPlain = true) (uncut : '=' ∉ key) :
    (splitAll ',' (key ++ '=' :: value)).filterMap (fun part => splitFirst? '=' (trimChars part)) =
      [(key, value)] := by
  have plain : (key ++ '=' :: value).all isPlain = true := by
    have sign : isPlain '=' = true := by decide
    rw [List.all_append, List.all_cons, hkey, hvalue, sign]
    rfl
  have isPlain_of_mem {c : Char} (hc : c ∈ key ++ '=' :: value) : isBlank c = false ∧ c ≠ ',' := by
    simpa [isPlain] using List.all_eq_true.mp plain c hc
  rw [splitAll_of_not_mem fun hc => (isPlain_of_mem hc).2 rfl, List.filterMap_cons,
    trimChars_of_forall fun c hc => (isPlain_of_mem hc).1, splitFirst?_append uncut]
  rfl

/-- The fields of a signed header are its time and its signature. -/
theorem fields_sign (payload : List UInt8) (secret : String) (timestamp : Int) :
    fields (sign payload secret timestamp) =
      [("t".toList, Numeral.decimal timestamp),
        ("v1".toList, Hex.encode (compute secret timestamp payload))] := by
  have text : (sign payload secret timestamp).toList =
      ("t".toList ++ '=' :: Numeral.decimal timestamp) ++
        ',' :: ("v1".toList ++ '=' :: Hex.encode (compute secret timestamp payload)) := by
    unfold sign
    rw [String.toList_ofList]
    simp
  unfold fields
  rw [text, splitAll_append, List.filterMap_append,
    fields_part (by decide) (plain_decimal timestamp) (by decide),
    fields_part (by decide) (plain_hex _) (by decide)]
  rfl

/-- A header with candidates of another scheme before its time and a wrong one at its end. -/
theorem crowded_header_accepted :
    verify [] ("v0=x" ++ "," ++ sign [] "s" 0 ++ "," ++ " v1=00") "s" 0 0 = .ok () := by
  have signed : verify [] (sign [] "s" 0) "s" 0 0 = .ok () := by
    refine (verify_iff_genuine [] (sign [] "s" 0) "s" 0 0).1.mpr ?_
    refine ⟨['0'], 0, ?_, by decide, by decide, Hex.encode (compute "s" 0 []), ?_, ?_⟩
    · rw [fields_sign]
      rfl
    · rw [fields_sign, mem_valuesOf]
      exact List.mem_cons_of_mem _ List.mem_cons_self
    · rw [Hex.decode?_encode]
      rfl
  exact (verify_iff_genuine [] (sign [] "s" 0) "s" 0 0).2.2.1 _
    (widens_between _ (by decide) (by decide)) signed

end TenantBilling.Signature
