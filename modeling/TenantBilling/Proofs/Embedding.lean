import TenantBilling.Proofs.Documents

/-! Values read again from their trees. An object whose first key is the one that marks embedded
documents is taken for the document that its text holds, and no document reads as such an object;
so a value within the depth of a reader is read again exactly when no object in it is marked. -/

namespace TenantBilling.Json

open Text Utf8

namespace Value

mutual

/-- How many levels of arrays and objects a value nests. -/
def depth : Value → Nat
  | .array vs => itemsDepth vs + 1
  | .object ms => membersDepth ms + 1
  | _ => 0

def itemsDepth : List Value → Nat
  | [] => 0
  | v :: vs => max (depth v) (itemsDepth vs)

def membersDepth : List (String × Value) → Nat
  | [] => 0
  | (_, v) :: ms => max (depth v) (membersDepth ms)

end

/-- Whether a whole number is one of a word, and the keys of an object ascend. -/
def isSound : Value → Bool
  | .number (.int n) => int64Least ≤ n && n ≤ nat64Greatest
  | .object ms => (ms.map Prod.fst).Pairwise fun j k => Key.before j k = true
  | _ => true

/-- A value whose whole numbers are within range and whose objects are maps. -/
def Sound (v : Value) : Prop := v.all isSound = true

instance (v : Value) : Decidable v.Sound := inferInstanceAs (Decidable (_ = true))

/-- Whether an object does not begin with the key that marks embedded documents. -/
def isPlain : Value → Bool
  | .object ms => ms.head?.map Prod.fst != some embeddedKey
  | _ => true

/-- A value with no object in it that begins with the key of embedded documents. -/
def Unmarked (v : Value) : Prop := v.all isPlain = true

instance (v : Value) : Decidable v.Unmarked := inferInstanceAs (Decidable (_ = true))

section Parts
variable {vs : List Value} {ms : List (String × Value)} {n : Nat}

theorem depth_array_le_iff : (array vs).depth ≤ n + 1 ↔ ∀ v ∈ vs, v.depth ≤ n := by
  have items : itemsDepth vs ≤ n ↔ ∀ v ∈ vs, v.depth ≤ n := by
    induction vs with
    | nil => simp [itemsDepth]
    | cons v vs ih => rw [itemsDepth, Nat.max_le, ih, List.forall_mem_cons]
  rw [depth, Nat.succ_le_succ_iff, items]

theorem depth_object_le_iff : (object ms).depth ≤ n + 1 ↔ ∀ m ∈ ms, m.2.depth ≤ n := by
  have members : membersDepth ms ≤ n ↔ ∀ m ∈ ms, m.2.depth ≤ n := by
    induction ms with
    | nil => simp [membersDepth]
    | cons m ms ih => rw [membersDepth, Nat.max_le, ih, List.forall_mem_cons]
  rw [depth, Nat.succ_le_succ_iff, members]

end Parts

end Value

/-- Every element is read again exactly when the whole list is. -/
theorem mapM_eq_some_self_iff {α : Type} {f : α → Option α} {as : List α} :
    as.mapM f = some as ↔ ∀ a ∈ as, f a = some a := by
  induction as with
  | nil => simp
  | cons a as ih =>
    rw [List.mapM_cons, List.forall_mem_cons, ← ih]
    simp only [Option.bind_eq_bind, Option.bind_eq_some_iff, Option.pure_def, Option.some.injEq,
      List.cons.injEq]
    constructor
    · rintro ⟨b, first, bs, others, rfl, rfl⟩
      exact ⟨first, others⟩
    · rintro ⟨first, others⟩
      exact ⟨a, first, as, others, rfl, rfl⟩

namespace Tree

variable {document : String → Option Value} {depth : Nat}

theorem toValue?_scalar {v : Value} (flat : v.depth = 0) (whole : v.Whole) (sound : v.Sound) :
    toValue? document depth v.tree = some v := by
  cases v with
  | null => rfl
  | bool b => rfl
  | number n =>
    cases n with
    | float bits => cases whole
    | int n =>
      have range : int64Least ≤ n ∧ n ≤ nat64Greatest := by
        have fits := (Bool.and_eq_true _ _).mp sound
        exact ⟨of_decide_eq_true fits.1, of_decide_eq_true fits.2⟩
      change (Number.int n).literal.number?.map _ = _
      rw [Literal.number?_int range.1 range.2]
      rfl
  | string s =>
    change (Piece.text? (Piece.ofText s)).map _ = _
    rw [Piece.text?_ofText]
    rfl
  | array vs => cases flat
  | object ms => cases flat

theorem toValues?_eq_mapM (ts : List Tree) :
    toValues? document depth ts = ts.mapM (toValue? document depth) := by
  induction ts with
  | nil => rfl
  | cons t ts ih =>
    rw [toValues?, ih, List.mapM_cons]
    cases toValue? document depth t with
    | none => rfl
    | some v =>
      rw [Option.bind_some, Option.map_eq_bind]
      rfl

theorem toValues?_trees_iff (vs : List Value) :
    toValues? document depth (Value.trees vs) = some vs ↔
      ∀ v ∈ vs, toValue? document depth v.tree = some v := by
  rw [toValues?_eq_mapM, Value.trees_eq_map, List.mapM_map]
  exact mapM_eq_some_self_iff

/-- Members whose keys ascend behind those that are there already are put at the end. -/
theorem toMembers?_memberTrees (above ms : List (String × Value))
    (ascending : ((above ++ ms).map Prod.fst).Pairwise fun j k => Key.before j k = true) :
    toMembers? document depth above (Value.memberTrees ms) =
      (toValues? document depth (Value.trees (ms.map Prod.snd))).map fun vs =>
        above ++ (ms.map Prod.fst).zip vs := by
  induction ms generalizing above with
  | nil => simp [Value.memberTrees, Value.trees, toMembers?, toValues?]
  | cons m ms ih =>
    obtain ⟨k, v⟩ := m
    have last (w : Value) : Table.place k w above = above ++ [(k, w)] := by
      rw [List.map_append, List.pairwise_append] at ascending
      exact Table.place_last w fun e he =>
        ascending.2.2 e.1 (List.mem_map_of_mem he) k List.mem_cons_self
    rw [Value.memberTrees, toMembers?, Piece.text?_ofText, Option.bind_some]
    change _ = ((toValue? document depth v.tree).bind fun w =>
      (toValues? document depth (Value.trees (ms.map Prod.snd))).map (w :: ·)).map _
    cases toValue? document depth v.tree with
    | none => rfl
    | some w =>
      have behind : (((above ++ [(k, w)]) ++ ms).map Prod.fst).Pairwise
          fun j k => Key.before j k = true := by
        simpa using ascending
      rw [Option.bind_some, last, ih _ behind, Option.bind_some, Option.map_map]
      simp only [List.append_assoc, List.singleton_append]
      rfl

theorem length_of_toValues? {ts : List Tree} {vs : List Value}
    (h : toValues? document depth ts = some vs) : vs.length = ts.length := by
  induction ts generalizing vs with
  | nil =>
    cases h
    rfl
  | cons t ts ih =>
    simp only [toValues?, Option.bind_eq_some_iff, Option.map_eq_some_iff] at h
    obtain ⟨v, -, ws, others, rfl⟩ := h
    rw [List.length_cons, List.length_cons, ih others]

theorem toMembers?_memberTrees_iff {ms : List (String × Value)}
    (ascending : (ms.map Prod.fst).Pairwise fun j k => Key.before j k = true) :
    toMembers? document depth [] (Value.memberTrees ms) = some ms ↔
      ∀ m ∈ ms, toValue? document depth m.2.tree = some m.2 := by
  have reads : toValues? document depth (Value.trees (ms.map Prod.snd)) = some (ms.map Prod.snd) ↔
      ∀ m ∈ ms, toValue? document depth m.2.tree = some m.2 :=
    (toValues?_trees_iff _).trans List.forall_mem_map
  rw [toMembers?_memberTrees [] ms ascending, ← reads, Option.map_eq_some_iff]
  constructor
  · rintro ⟨vs, read, members⟩
    have length : vs.length = (ms.map Prod.fst).length := by
      rw [length_of_toValues? read, Value.trees_eq_map, List.length_map, List.length_map,
        List.length_map]
    have same : vs = ms.map Prod.snd := by
      rw [← List.map_snd_zip (Nat.le_of_eq length)]
      exact congrArg _ members
    rw [same] at read
    exact read
  · intro read
    exact ⟨ms.map Prod.snd, read, (List.zip_of_prod rfl rfl).symm⟩

theorem isEmbedded_memberTrees (ms : List (String × Value)) :
    isEmbedded (Value.memberTrees ms) = !(Value.object ms).isPlain := by
  cases ms with
  | nil => rfl
  | cons m ms =>
    change (Piece.text? (Piece.ofText m.1) == _) = !(some m.1 != _)
    rw [Piece.text?_ofText, bne, Bool.not_not]

/-- An object is read member by member, unless its first key marks it as embedded. -/
theorem toValue?_object (ms : List (String × Value)) :
    toValue? document (depth + 1) (Value.object ms).tree =
      if (Value.object ms).isPlain then
        (toMembers? document depth [] (Value.memberTrees ms)).map .object
      else (embeddedText? (Value.memberTrees ms)).bind document := by
  change (if isEmbedded (Value.memberTrees ms) then
      (embeddedText? (Value.memberTrees ms)).bind document
    else (toMembers? document depth [] (Value.memberTrees ms)).map .object) = _
  rw [isEmbedded_memberTrees]
  cases (Value.object ms).isPlain <;> rfl

/-- A text that stands alone under the key of embedded documents is read as a document. -/
theorem toValue?_embedded {k : String} (key : k = embeddedKey) (s : String) :
    toValue? document (depth + 1) (Value.object [(k, .string s)]).tree = document s := by
  have marked : (Value.object [(k, .string s)]).isPlain = false :=
    bne_eq_false_iff_eq.mpr (congrArg some key)
  rw [toValue?_object, marked, if_neg Bool.false_ne_true]
  change (Piece.text? (Piece.ofText s)).bind document = _
  rw [Piece.text?_ofText, Option.bind_some]

/-- A key that was put in its place is there when all members are read. -/
theorem mem_keys_of_toMembers? {above ms : List (String × Value)}
    {members : List (List Piece × Tree)} {k : String} (hk : k ∈ above.map Prod.fst)
    (read : toMembers? document depth above members = some ms) : k ∈ ms.map Prod.fst := by
  induction members generalizing above with
  | nil =>
    cases read
    exact hk
  | cons m members ih =>
    obtain ⟨ps, t⟩ := m
    simp only [toMembers?, Option.bind_eq_some_iff] at read
    obtain ⟨j, -, v, -, others⟩ := read
    exact ih (Table.mem_keys_place (Or.inr hk)) others

/-- No document reads as an object that holds only the key of embedded documents: in a document
that is no such object itself, some other key stands first, and that key stays. -/
theorem ofLevels?_ne_embedded (levels : Nat) (bytes : List UInt8) (v : Value) :
    Value.ofLevels? levels bytes ≠ some (.object [(embeddedKey, v)]) := by
  induction levels generalizing bytes with
  | zero =>
    intro read
    cases read
  | succ levels ih =>
    intro read
    obtain ⟨t, -, value⟩ := Option.bind_eq_some_iff.mp read
    cases t with
    | object members =>
      change (if isEmbedded members then (embeddedText? members).bind _
        else (toMembers? _ _ [] members).map Value.object) = _ at value
      split at value
      · obtain ⟨s, -, document⟩ := Option.bind_eq_some_iff.mp value
        exact ih _ document
      · rename_i plain
        obtain ⟨ms, placed, object⟩ := Option.map_eq_some_iff.mp value
        cases object
        cases members with
        | nil => cases placed
        | cons m members =>
          obtain ⟨ps, t⟩ := m
          simp only [toMembers?, Option.bind_eq_some_iff] at placed
          obtain ⟨k, key, w, -, others⟩ := placed
          have stays := mem_keys_of_toMembers? (Table.mem_keys_place (Or.inl rfl)) others
          have same : k = embeddedKey := List.mem_singleton.mp stays
          exact plain (by rw [isEmbedded, key, same]; exact beq_self_eq_true _)
    | null => cases value
    | bool b => cases value
    | number l =>
      obtain ⟨n, -, other⟩ := Option.map_eq_some_iff.mp value
      cases other
    | string ps =>
      obtain ⟨s, -, other⟩ := Option.map_eq_some_iff.mp value
      cases other
    | array ts =>
      obtain ⟨vs, -, other⟩ := Option.map_eq_some_iff.mp value
      cases other

/-- Whether what is embedded is never read as an object that holds only the key of embedded
documents. -/
def Unwraps (document : String → Option Value) : Prop :=
  ∀ s v, document s ≠ some (.object [(embeddedKey, v)])

theorem unwraps_ofLevels? (levels : Nat) :
    Unwraps fun s => Value.ofLevels? levels (Utf8.bytes s) := fun _ v =>
  ofLevels?_ne_embedded levels _ v

theorem unwraps_ofText? : Unwraps Value.ofText? := fun _ v => ofLevels?_ne_embedded _ _ v

/-- An object that begins with the key of embedded documents is not read again. -/
theorem toValue?_marked (unwraps : Unwraps document) {ms : List (String × Value)}
    (marked : (Value.object ms).isPlain = false) :
    toValue? document depth (Value.object ms).tree ≠ some (.object ms) := by
  intro read
  cases depth with
  | zero => cases read
  | succ depth =>
    rw [toValue?_object, marked, if_neg Bool.false_ne_true] at read
    obtain ⟨s, text, embedded⟩ := Option.bind_eq_some_iff.mp read
    cases ms with
    | nil => cases text
    | cons m ms =>
      obtain ⟨k, v⟩ := m
      have key : k = embeddedKey := Option.some.inj (bne_eq_false_iff_eq.mp marked)
      cases ms with
      | nil => exact unwraps s v (key ▸ embedded)
      | cons n ms =>
        have none : embeddedText? (Value.memberTrees ((k, v) :: n :: ms)) = none := by
          cases v <;> rfl
        rw [none] at text
        cases text

theorem unmarked_of_depth {v : Value} (flat : v.depth = 0) : v.Unmarked := by
  cases v with
  | array vs => cases flat
  | object ms => cases flat
  | _ => rfl

/-- A value that is not too deep is read again from its tree exactly when it is unmarked. -/
theorem toValue?_tree_iff (unwraps : Unwraps document) {v : Value} (whole : v.Whole)
    (sound : v.Sound) (enough : v.depth ≤ depth) :
    toValue? document depth v.tree = some v ↔ v.Unmarked := by
  induction depth generalizing v with
  | zero =>
    have flat := Nat.le_zero.mp enough
    exact iff_of_true (toValue?_scalar flat whole sound) (unmarked_of_depth flat)
  | succ depth ih =>
    cases v with
    | array vs =>
      have items := Value.depth_array_le_iff.mp enough
      have wholes := (Value.all_array_iff.mp whole).2
      have sounds := (Value.all_array_iff.mp sound).2
      have reads : toValues? document depth (Value.trees vs) = some vs ↔
          ∀ v ∈ vs, v.Unmarked :=
        (toValues?_trees_iff vs).trans (forall₂_congr fun v hv =>
          ih (wholes v hv) (sounds v hv) (items v hv))
      have read : toValue? document (depth + 1) (Value.array vs).tree = some (.array vs) ↔
          toValues? document depth (Value.trees vs) = some vs := by
        change (toValues? document depth (Value.trees vs)).map Value.array = _ ↔ _
        simp
      rw [read, reads]
      exact (Value.all_array_iff.trans (and_iff_right rfl)).symm
    | object ms =>
      have members := Value.depth_object_le_iff.mp enough
      have wholes := (Value.all_object_iff.mp whole).2
      obtain ⟨ascending, sounds⟩ := Value.all_object_iff.mp sound
      have reads : toMembers? document depth [] (Value.memberTrees ms) = some ms ↔
          ∀ m ∈ ms, m.2.Unmarked :=
        (toMembers?_memberTrees_iff (of_decide_eq_true ascending)).trans
          (forall₂_congr fun m hm => ih (wholes m hm) (sounds m hm) (members m hm))
      have unmarked : (Value.object ms).Unmarked ↔
          (Value.object ms).isPlain = true ∧ ∀ m ∈ ms, m.2.Unmarked := Value.all_object_iff
      rw [unmarked, ← reads]
      cases plain : (Value.object ms).isPlain with
      | false =>
        exact iff_of_false (toValue?_marked unwraps plain) fun h => Bool.false_ne_true h.1
      | true =>
        rw [toValue?_object, plain, if_pos rfl]
        simp
    | _ => exact iff_of_true (toValue?_scalar rfl whole sound) (unmarked_of_depth rfl)

end Tree

/-- A value is read again from its own text. -/
theorem Value.ofText?_text_iff {v : Value} (whole : v.Whole) (sound : v.Sound)
    (enough : v.depth ≤ deepest) : ofText? v.text = some v ↔ v.Unmarked := by
  unfold ofText? ofBytes?
  rw [ofLevels?, Tree.ofBytes?_text whole, Option.bind_some]
  exact Tree.toValue?_tree_iff (Tree.unwraps_ofLevels? _) whole sound enough

end TenantBilling.Json
