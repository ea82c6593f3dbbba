import TenantBilling.Proofs.Literals

/-! Values and their documents. The text of a value without doubles is read as one tree, in which
each of its parts stands in its place; no part is lost and none is added. -/

namespace TenantBilling.Json

open Text Utf8

namespace Value

mutual

/-- The tree that the text of a value is read as. -/
def tree : Value → Tree
  | .null => .null
  | .bool b => .bool b
  | .number n => .number n.literal
  | .string s => .string (Piece.ofText s)
  | .array vs => .array (trees vs)
  | .object ms => .object (memberTrees ms)

def trees : List Value → List Tree
  | [] => []
  | v :: vs => tree v :: trees vs

def memberTrees : List (String × Value) → List (List Piece × Tree)
  | [] => []
  | (k, v) :: ms => (Piece.ofText k, tree v) :: memberTrees ms

end

theorem trees_eq_map (vs : List Value) : trees vs = vs.map tree := by
  induction vs with
  | nil => rfl
  | cons v vs ih => rw [trees, ih, List.map_cons]

mutual

/-- Whether a test holds of a value and of every value in it. -/
def all (test : Value → Bool) : Value → Bool
  | .array vs => test (.array vs) && allItems test vs
  | .object ms => test (.object ms) && allMembers test ms
  | v => test v

def allItems (test : Value → Bool) : List Value → Bool
  | [] => true
  | v :: vs => all test v && allItems test vs

def allMembers (test : Value → Bool) : List (String × Value) → Bool
  | [] => true
  | (_, v) :: ms => all test v && allMembers test ms

end

section Parts
variable {test : Value → Bool} {vs : List Value} {ms : List (String × Value)}

theorem all_array_iff :
    (array vs).all test = true ↔ test (.array vs) = true ∧ ∀ v ∈ vs, v.all test = true := by
  have items : allItems test vs = true ↔ ∀ v ∈ vs, v.all test = true := by
    induction vs with
    | nil => simp [allItems]
    | cons v vs ih => simp [allItems, ih]
  simp only [all, Bool.and_eq_true, items]

theorem all_object_iff :
    (object ms).all test = true ↔ test (.object ms) = true ∧ ∀ m ∈ ms, m.2.all test = true := by
  have members : allMembers test ms = true ↔ ∀ m ∈ ms, m.2.all test = true := by
    induction ms with
    | nil => simp [allMembers]
    | cons m ms ih => simp [allMembers, ih]
  simp only [all, Bool.and_eq_true, members]

end Parts

/-- Whether a value is no double. -/
def isWhole : Value → Bool
  | .number (.float _) => false
  | _ => true

/-- A value with no double in it. -/
def Whole (v : Value) : Prop := v.all isWhole = true

instance (v : Value) : Decidable v.Whole := inferInstanceAs (Decidable (_ = true))

theorem whole_array_iff {vs : List Value} : (array vs).Whole ↔ ∀ v ∈ vs, v.Whole :=
  all_array_iff.trans (and_iff_right rfl)

theorem whole_object_iff {ms : List (String × Value)} : (object ms).Whole ↔ ∀ m ∈ ms, m.2.Whole :=
  all_object_iff.trans (and_iff_right rfl)

@[simp] theorem whole_int (n : Int) : (int n).Whole := rfl

@[simp] theorem whole_string (s : String) : (string s).Whole := rfl

@[simp] theorem whole_bool (b : Bool) : (bool b).Whole := rfl

end Value

namespace Tree

variable {rest : List UInt8} {fuel : Nat}

/-! ## What a value begins with -/

theorem skipSpace_cons {b : UInt8} (h : isSpace b = false) : skipSpace (b :: rest) = b :: rest :=
  List.dropWhile_cons_of_neg (by rw [h]; exact Bool.false_ne_true)

/-- No space stands before a value, and no bracket that closes an array. -/
theorem print_opens {v : Value} (h : v.Whole) :
    ∃ b r, isSpace b = false ∧ b ≠ ']'.toUInt8 ∧ encode v.print = b :: r := by
  cases v with
  | null => exact ⟨_, _, rfl, by decide, rfl⟩
  | bool b => cases b <;> exact ⟨_, _, rfl, by decide, rfl⟩
  | number n =>
    cases n with
    | float bits => cases h
    | int n =>
      obtain ⟨b, opener, r, written⟩ := decimal_opens n
      have all : ∀ b ∈ openers, isSpace b = false ∧ b ≠ ']'.toUInt8 := by decide +kernel
      exact ⟨b, r, (all b opener).1, (all b opener).2, written⟩
  | string s => exact ⟨_, _, rfl, by decide, rfl⟩
  | array vs => exact ⟨_, _, rfl, by decide, rfl⟩
  | object ms => exact ⟨_, _, rfl, by decide, rfl⟩

theorem value?_int (n : Int) (ends : Ends rest) :
    value? (fuel + 1) (encode (Numeral.decimal n) ++ rest) =
      some (.number (Number.int n).literal, rest) := by
  obtain ⟨b, opener, r, written⟩ := decimal_opens n
  have all : ∀ b ∈ openers, isSpace b = false ∧ b ≠ '"'.toUInt8 ∧ b ≠ '['.toUInt8 ∧ b ≠ 0x7b ∧
      b ≠ 'n'.toUInt8 ∧ b ≠ 't'.toUInt8 ∧ b ≠ 'f'.toUInt8 := by decide +kernel
  obtain ⟨space, quote, bracket, brace, n', t, f⟩ := all b opener
  have read := literal?_decimal n ends
  rw [written, List.cons_append] at read ⊢
  rw [value?, skipSpace_cons space]
  dsimp only
  rw [if_neg quote, if_neg bracket, if_neg brace, if_neg n', if_neg t, if_neg f, read]
  rfl

theorem value?_quoted (s : String) :
    value? (fuel + 1) (encode (quoted s) ++ rest) = some (.string (Piece.ofText s), rest) := by
  change (string? (encode (s.toList.flatMap escaped ++ ['"']) ++ rest)).map _ = _
  rw [string?_quoted]
  rfl

/-! ## Steps of the search -/

variable {s s' r : List UInt8} {t : Tree} {ts : List Tree} {ms : List (List Piece × Tree)}

theorem items?_last (read : value? fuel s = some (t, ']'.toUInt8 :: r)) :
    items? (fuel + 1) s = some ([t], r) := by
  rw [items?, read]
  rfl

theorem items?_more (read : value? fuel s = some (t, ','.toUInt8 :: s'))
    (more : items? fuel s' = some (ts, r)) : items? (fuel + 1) s = some (t :: ts, r) := by
  rw [items?, read]
  change (items? fuel s').map _ = _
  rw [more]
  rfl

theorem encode_quoted (k : String) :
    encode (quoted k) = '"'.toUInt8 :: encode (k.toList.flatMap escaped ++ ['"']) := rfl

section Members
variable (k : String)

theorem members?_last (read : value? fuel s = some (t, 0x7d :: r)) :
    members? (fuel + 1) (encode (quoted k) ++ ':'.toUInt8 :: s) =
      some ([(Piece.ofText k, t)], r) := by
  have quote : isSpace '"'.toUInt8 = false := rfl
  have colon : isSpace ':'.toUInt8 = false := rfl
  have brace : isSpace 0x7d = false := rfl
  simp only [members?, encode_quoted, List.cons_append, skipSpace_cons, quote, colon, brace,
    string?_quoted, read, if_true]
  rfl

theorem members?_more (read : value? fuel s = some (t, ','.toUInt8 :: s'))
    (more : members? fuel s' = some (ms, r)) :
    members? (fuel + 1) (encode (quoted k) ++ ':'.toUInt8 :: s) =
      some ((Piece.ofText k, t) :: ms, r) := by
  have quote : isSpace '"'.toUInt8 = false := rfl
  have colon : isSpace ':'.toUInt8 = false := rfl
  have comma : isSpace ','.toUInt8 = false := rfl
  simp only [members?, encode_quoted, List.cons_append, skipSpace_cons, quote, colon, comma,
    string?_quoted, read, more, if_true, Option.map_some]

end Members

theorem ends_comma : Ends (','.toUInt8 :: r) := fun _ h =>
  Or.inl (Option.some.inj h).symm

theorem ends_bracket : Ends (']'.toUInt8 :: r) := fun _ h =>
  Or.inr (Or.inl (Option.some.inj h).symm)

theorem ends_brace : Ends (0x7d :: r) := fun _ h =>
  Or.inr (Or.inr (Option.some.inj h).symm)

theorem printItems_cons (v w : Value) (vs : List Value) :
    Value.printItems (v :: w :: vs) = v.print ++ ',' :: Value.printItems (w :: vs) := rfl

theorem printItems_opens {v : Value} {vs : List Value}
    (h : Value.allItems Value.isWhole (v :: vs) = true) :
    ∃ b r, isSpace b = false ∧ b ≠ ']'.toUInt8 ∧
      encode (Value.printItems (v :: vs)) = b :: r := by
  obtain ⟨b, r, space, bracket, opens⟩ := print_opens ((Bool.and_eq_true _ _).mp h).1
  cases vs with
  | nil => exact ⟨b, r, space, bracket, opens⟩
  | cons w vs =>
    refine ⟨b, r ++ encode (',' :: Value.printItems (w :: vs)), space, bracket, ?_⟩
    rw [printItems_cons, encode_append, opens, List.cons_append]

theorem printMembers_single (k : String) (v : Value) :
    Value.printMembers [(k, v)] = quoted k ++ ':' :: v.print := rfl

theorem printMembers_cons (k : String) (v : Value) (m : String × Value)
    (ms : List (String × Value)) : Value.printMembers ((k, v) :: m :: ms) =
      quoted k ++ ':' :: (v.print ++ ',' :: Value.printMembers (m :: ms)) := by
  rw [Value.printMembers, List.append_assoc, List.cons_append]

theorem printMembers_opens (m : String × Value) (ms : List (String × Value)) :
    ∃ r, encode (Value.printMembers (m :: ms)) = '"'.toUInt8 :: r := by
  cases ms <;> exact ⟨_, rfl⟩

/-- An array is its items up to the bracket that closes it. -/
theorem value?_array {v : Value} {vs : List Value}
    (h : Value.allItems Value.isWhole (v :: vs) = true)
    (read : items? fuel (encode (Value.printItems (v :: vs)) ++ ']'.toUInt8 :: r) = some (ts, r)) :
    value? (fuel + 1) (encode (Value.print (.array (v :: vs))) ++ r) = some (.array ts, r) := by
  have opening : isSpace '['.toUInt8 = false := rfl
  have written : encode (Value.print (.array (v :: vs))) ++ r =
      '['.toUInt8 :: (encode (Value.printItems (v :: vs)) ++ ']'.toUInt8 :: r) := by
    change '['.toUInt8 :: (encode (Value.printItems (v :: vs) ++ [']'])) ++ r = _
    rw [encode_append, List.cons_append, List.append_assoc]
    rfl
  obtain ⟨b, items, space, bracket, opens⟩ := printItems_opens h
  rw [written]
  rw [opens, List.cons_append] at read ⊢
  rw [value?, skipSpace_cons opening]
  dsimp only
  rw [if_neg (by decide), if_pos rfl, skipSpace_cons space]
  dsimp only
  rw [if_neg bracket, read]
  rfl

/-- An object is its members up to the brace that closes it. -/
theorem value?_object {m : String × Value} {members : List (String × Value)}
    (read : members? fuel (encode (Value.printMembers (m :: members)) ++ 0x7d :: r) =
      some (ms, r)) :
    value? (fuel + 1) (encode (Value.print (.object (m :: members))) ++ r) =
      some (.object ms, r) := by
  have written : encode (Value.print (.object (m :: members))) ++ r =
      0x7b :: (encode (Value.printMembers (m :: members)) ++ 0x7d :: r) := by
    change 0x7b :: (encode (Value.printMembers (m :: members) ++ ['\x7d'])) ++ r = _
    rw [encode_append, List.cons_append, List.append_assoc]
    rfl
  obtain ⟨others, opens⟩ := printMembers_opens m members
  rw [written]
  rw [opens, List.cons_append] at read ⊢
  change (members? fuel _).map _ = _
  rw [read]
  rfl

theorem length_print_pos {v : Value} (h : v.Whole) : 0 < v.print.length := by
  obtain ⟨b, r, -, -, opens⟩ := print_opens h
  cases chars : v.print with
  | nil => rw [chars] at opens; cases opens
  | cons c cs => exact Nat.succ_pos _

/-! ## Whole values

Each step of the search takes one from the bound and at least one character from the text of every
second step, so twice the length of a text bounds the search for its value. -/

mutual

/-- The text of a value is read as its tree, up to its end. -/
theorem value?_print {v : Value} (h : v.Whole) {fuel : Nat}
    (enough : 2 * v.print.length ≤ fuel) {rest : List UInt8} (ends : Ends rest) :
    value? fuel (encode v.print ++ rest) = some (v.tree, rest) := by
  obtain ⟨fuel, rfl⟩ : ∃ n, fuel = n + 1 := by
    have := length_print_pos h
    exact ⟨fuel - 1, by omega⟩
  cases v with
  | null => rfl
  | bool b => cases b <;> rfl
  | number n =>
    cases n with
    | float bits => cases h
    | int n => exact value?_int n ends
  | string s => exact value?_quoted s
  | array vs =>
    cases vs with
    | nil => rfl
    | cons v vs =>
      have inside : 2 * (Value.printItems (v :: vs)).length + 1 ≤ fuel := by
        simp only [Value.print, List.length_append, List.length_cons, List.length_nil] at enough
        omega
      exact value?_array h (items?_print h inside rest)
  | object ms =>
    cases ms with
    | nil => rfl
    | cons m ms =>
      have inside : 2 * (Value.printMembers (m :: ms)).length + 1 ≤ fuel := by
        simp only [Value.print, List.length_append, List.length_cons, List.length_nil] at enough
        omega
      exact value?_object (members?_print h inside rest)
termination_by fuel

theorem items?_print {v : Value} {vs : List Value}
    (h : Value.allItems Value.isWhole (v :: vs) = true) {fuel : Nat}
    (enough : 2 * (Value.printItems (v :: vs)).length + 1 ≤ fuel)
    (rest : List UInt8) :
    items? fuel (encode (Value.printItems (v :: vs)) ++ ']'.toUInt8 :: rest) =
      some (Value.trees (v :: vs), rest) := by
  obtain ⟨first, others⟩ := (Bool.and_eq_true _ _).mp h
  obtain ⟨fuel, rfl⟩ : ∃ n, fuel = n + 1 := ⟨fuel - 1, by omega⟩
  cases vs with
  | nil =>
    exact items?_last (value?_print first (Nat.le_of_succ_le_succ enough) ends_bracket)
  | cons w vs =>
    rw [printItems_cons, List.length_append, List.length_cons] at enough
    have here : 2 * v.print.length ≤ fuel := by omega
    have beyond : 2 * (Value.printItems (w :: vs)).length + 1 ≤ fuel := by omega
    rw [printItems_cons, encode_append, List.append_assoc]
    exact items?_more (value?_print first here ends_comma) (items?_print others beyond rest)
termination_by fuel

theorem members?_print {m : String × Value} {ms : List (String × Value)}
    (h : Value.allMembers Value.isWhole (m :: ms) = true) {fuel : Nat}
    (enough : 2 * (Value.printMembers (m :: ms)).length + 1 ≤ fuel) (rest : List UInt8) :
    members? fuel (encode (Value.printMembers (m :: ms)) ++ 0x7d :: rest) =
      some (Value.memberTrees (m :: ms), rest) := by
  obtain ⟨k, v⟩ := m
  obtain ⟨first, others⟩ := (Bool.and_eq_true _ _).mp h
  obtain ⟨fuel, rfl⟩ : ∃ n, fuel = n + 1 := ⟨fuel - 1, by omega⟩
  cases ms with
  | nil =>
    rw [printMembers_single, List.length_append, List.length_cons] at enough
    have here : 2 * v.print.length ≤ fuel := by omega
    rw [printMembers_single, encode_append, List.append_assoc]
    exact members?_last k (value?_print first here ends_brace)
  | cons n ms =>
    rw [printMembers_cons, List.length_append, List.length_cons, List.length_append,
      List.length_cons] at enough
    have here : 2 * v.print.length ≤ fuel := by omega
    have beyond : 2 * (Value.printMembers (n :: ms)).length + 1 ≤ fuel := by omega
    have written : encode (Value.printMembers ((k, v) :: n :: ms)) ++ 0x7d :: rest =
        encode (quoted k) ++ ':'.toUInt8 :: (encode v.print ++
          ','.toUInt8 :: (encode (Value.printMembers (n :: ms)) ++ 0x7d :: rest)) := by
      rw [printMembers_cons, encode_append, List.append_assoc]
      change _ ++ ':'.toUInt8 :: (encode (v.print ++ _) ++ _) = _
      rw [encode_append, List.append_assoc]
      rfl
    rw [written]
    exact members?_more k (value?_print first here ends_comma) (members?_print others beyond rest)
termination_by fuel

end

/-- A whole document is read as the tree of its value. -/
theorem ofBytes?_text {v : Value} (h : v.Whole) :
    ofBytes? (bytes v.text) = some v.tree := by
  have written : bytes v.text = encode v.print := by
    unfold bytes Value.text
    rw [String.toList_ofList]
  have longer := length_le_encode v.print
  have enough : 2 * v.print.length ≤ 2 * (encode v.print).length + 2 := by omega
  have ends : Ends [] := fun _ none => absurd none (by simp)
  have read := value?_print h enough ends
  rw [List.append_nil] at read
  unfold ofBytes?
  rw [written, read]
  rfl

end Tree

end TenantBilling.Json
