import TenantBilling.Encoding.Moment
import TenantBilling.Proofs.Embedding

/-! Fields read again from the tree of the value they were written as. -/

namespace TenantBilling.Json

open Text Utf8

variable {α : Type} {depth : Nat} {n least greatest : Int}

/-- The part of a document that a value is read from. -/
def Value.site (v : Value) (depth : Nat) : Site := ⟨depth, v.tree⟩

namespace Site

theorem ofBytes?_text {v : Value} (whole : v.Whole) :
    ofBytes? (bytes v.text) = some (v.site deepest) := by
  unfold ofBytes?
  rw [Tree.ofBytes?_text whole]
  rfl

@[simp] theorem bool?_site (b : Bool) : ((Value.bool b).site depth).bool? = some b := rfl

@[simp] theorem text?_site (s : String) : ((Value.string s).site depth).text? = some s :=
  Piece.text?_ofText s

theorem integer?_site (least : int64Least ≤ n) (greatest : n ≤ nat64Greatest) :
    ((Value.int n).site depth).integer? = some n := by
  have tree : ((Value.int n).site depth).tree = .number (Number.int n).literal := rfl
  simp only [integer?, tree, Literal.number?_int least greatest]

theorem int64?_site (fits : fitsInt64 n = true) : ((Value.int n).site depth).int64? = some n := by
  have range : int64Least ≤ n ∧ n ≤ int64Greatest := by
    simpa [fitsInt64] using fits
  have wider : int64Greatest ≤ nat64Greatest := by decide
  unfold int64?
  rw [integer?_site range.1 (by omega), Option.filter_some, if_pos fits]

theorem nat64?_site {n : Nat} (fits : n ≤ nat64Greatest) :
    ((Value.int n).site depth).nat64? = some n := by
  have least : int64Least ≤ 0 := by decide
  have bounds : 0 ≤ (n : Int) ∧ (n : Int) ≤ nat64Greatest := by omega
  unfold nat64?
  rw [integer?_site (by omega) bounds.2, Option.bind_some, if_pos bounds, Int.toNat_natCast]

theorem within?_site (lower : least ≤ n) (upper : n ≤ greatest)
    (range : int64Least ≤ least ∧ greatest ≤ nat64Greatest) :
    ((Value.int n).site depth).within? least greatest = some n := by
  have above : int64Least ≤ n := Int.le_trans range.1 lower
  have below : n ≤ nat64Greatest := Int.le_trans upper range.2
  unfold within?
  rw [integer?_site above below, Option.filter_some, if_pos (by simp [lower, upper])]

theorem bind_within?_site (lower : least ≤ n) (upper : n ≤ greatest)
    (range : int64Least ≤ least ∧ greatest ≤ nat64Greatest) (next : Int → Option α) :
    (((Value.int n).site depth).within? least greatest).bind next = next n := by
  rw [within?_site lower upper range, Option.bind_some]

/-- The sites of the items of an array. -/
theorem elements?_site (vs : List Value) :
    ((Value.array vs).site (depth + 1)).elements? = some (vs.map (·.site depth)) := by
  change some ((Value.trees vs).map _) = _
  rw [Value.trees_eq_map, List.map_map]
  rfl

theorem list?_site_iff (read : Site → Option α) (write : α → Value) (as : List α) :
    ((Value.array (as.map write)).site (depth + 1)).list? read = some as ↔
      ∀ a ∈ as, read ((write a).site depth) = some a := by
  unfold list?
  rw [elements?_site, Option.bind_some, List.map_map, List.mapM_map]
  exact mapM_eq_some_self_iff

/-- One of a set of names is read from its text. -/
@[simp] theorem variant?_site (parse : String → Option α) (s : String) :
    ((Value.string s).site depth).variant? parse = parse s := by
  change (Piece.text? (Piece.ofText s)).bind parse = _
  rw [Piece.text?_ofText, Option.bind_some]

/-- Null is read as nothing, and anything else as what was written. -/
theorem optional_site {read : Site → Option α} {write : α → Value} {o : Option α}
    (present : ∀ a, (write a).tree ≠ .null)
    (reads : ∀ a ∈ o, read ((write a).site depth) = some a) :
    optional read ((Encoding.ofOptional write o).site depth) = some o := by
  cases o with
  | none => rfl
  | some a =>
    change optional read ((write a).site depth) = _
    unfold optional
    split
    · rename_i null
      exact absurd null (present a)
    · rw [reads a rfl]
      rfl

theorem value?_site_iff {v : Value} (whole : v.Whole) (sound : v.Sound) (enough : v.depth ≤ depth) :
    (v.site depth).value? = some v ↔ v.Unmarked :=
  Tree.toValue?_tree_iff Tree.unwraps_ofText? whole sound enough

end Site

/-- The slots of an object that was written with these members. -/
def slotsOf (ms : List (String × Value)) (depth : Nat) : Slots Site :=
  ⟨false, ms.map fun m => (m.1, m.2.site depth)⟩

theorem Site.known?_memberTrees {names : List String} {ms : List (String × Value)}
    (known : ∀ m ∈ ms, m.1 ∈ names) (nodup : (ms.map Prod.fst).Nodup) :
    known? names depth (Value.memberTrees ms) = some (ms.map fun m => (m.1, m.2.site depth)) := by
  induction ms with
  | nil => rfl
  | cons m ms ih =>
    obtain ⟨k, v⟩ := m
    obtain ⟨fresh, nodup⟩ := List.nodup_cons.mp nodup
    have once : ((ms.map fun m => (m.1, m.2.site depth)).any fun f => f.1 == k) = false := by
      rw [List.any_map, List.any_eq_false]
      exact fun m hm same => fresh (List.mem_map.mpr ⟨m, hm, eq_of_beq same⟩)
    rw [Value.memberTrees, known?, Piece.text?_ofText,
      ih (fun m hm => known m (List.mem_cons_of_mem _ hm)) nodup]
    simp only [Option.bind_eq_bind, Option.bind_some, once]
    rw [if_pos (List.contains_iff_mem.mpr (known _ List.mem_cons_self))]
    rfl

theorem Site.slots?_site {names : List String} {ms : List (String × Value)}
    (fields : ms.map Prod.fst = names) (nodup : names.Nodup) :
    ((Value.object ms).site (depth + 1)).slots? names = some (slotsOf ms depth) := by
  have known : ∀ m ∈ ms, m.1 ∈ names := fun m hm => fields ▸ List.mem_map_of_mem hm
  change (known? names depth (Value.memberTrees ms)).map _ = _
  rw [known?_memberTrees known (fields ▸ nodup)]
  rfl

end TenantBilling.Json
