/-! Finite maps kept in key order. Two tables with the same look-ups are equal, so a table
is a value that can be compared, whatever the order of the insertions that built it. -/

namespace TenantBilling

/-- A strict order on keys that decides every two keys. -/
class Key (κ : Type) where
  before : κ → κ → Bool
  irrefl : ∀ a, before a a = false
  trans : ∀ a b c, before a b = true → before b c = true → before a c = true
  connected : ∀ a b, before a b = false → before b a = false → a = b

theorem Key.asymm {κ : Type} [Key κ] {a b : κ} (h : Key.before a b = true) :
    Key.before b a = false := by
  cases hb : Key.before b a with
  | false => rfl
  | true => exact absurd (Key.trans a b a h hb) (by simp [Key.irrefl])

/-- Of two keys that differ, one comes before the other. -/
theorem Key.before_or_before {κ : Type} [Key κ] {a b : κ} (h : a ≠ b) :
    Key.before a b = true ∨ Key.before b a = true := by
  cases hab : Key.before a b with
  | true => exact Or.inl rfl
  | false =>
    cases hba : Key.before b a with
    | true => exact Or.inr rfl
    | false => exact absurd (Key.connected a b hab hba) h

instance : Key Int where
  before a b := decide (a < b)
  irrefl a := by simp
  trans a b c := by simp only [decide_eq_true_eq]; omega
  connected a b := by simp only [decide_eq_false_iff_not]; omega

/-- Texts in the order of their code points, which is the order of their UTF-8 bytes. -/
instance : Key String where
  before a b := decide (a < b)
  irrefl a := by simp
  trans a b c := by
    simp only [decide_eq_true_eq]
    exact String.lt_trans
  connected a b := by
    simp only [decide_eq_false_iff_not]
    exact fun hab hba => String.le_antisymm (String.not_lt.mp hba) (String.not_lt.mp hab)

structure Table (κ α : Type) [Key κ] where
  entries : List (κ × α)
  ascending : entries.Pairwise fun a b => Key.before a.1 b.1 = true
deriving DecidableEq

namespace Table
variable {κ α β : Type} [Key κ]

def empty : Table κ α := ⟨[], .nil⟩

instance : EmptyCollection (Table κ α) := ⟨empty⟩

instance : Inhabited (Table κ α) := ⟨empty⟩

def size (t : Table κ α) : Nat := t.entries.length

def keys (t : Table κ α) : List κ := t.entries.map Prod.fst

def values (t : Table κ α) : List α := t.entries.map Prod.snd

/-- The value under a key, in entries that ascend. -/
def lookup (k : κ) : List (κ × α) → Option α
  | [] => none
  | (j, v) :: r =>
    if Key.before k j then none
    else if Key.before j k then lookup k r
    else some v

def get? (t : Table κ α) (k : κ) : Option α := lookup k t.entries

def contains (t : Table κ α) (k : κ) : Bool := (t.get? k).isSome

/-- Puts a value in its place, over the one that stood under its key. -/
def place (k : κ) (v : α) : List (κ × α) → List (κ × α)
  | [] => [(k, v)]
  | (j, w) :: r =>
    if Key.before k j then (k, v) :: (j, w) :: r
    else if Key.before j k then (j, w) :: place k v r
    else (k, v) :: r

theorem mem_place {k : κ} {v : α} {l : List (κ × α)} {e : κ × α} (h : e ∈ place k v l) :
    e = (k, v) ∨ e ∈ l := by
  induction l with
  | nil => exact Or.inl (List.mem_singleton.mp h)
  | cons d r ih =>
    obtain ⟨j, w⟩ := d
    simp only [place] at h
    split at h
    · rcases List.mem_cons.mp h with h | h
      · exact Or.inl h
      · exact Or.inr h
    · split at h
      · rcases List.mem_cons.mp h with h | h
        · exact Or.inr (h ▸ List.mem_cons_self)
        · exact (ih h).imp id (List.mem_cons_of_mem _)
      · rcases List.mem_cons.mp h with h | h
        · exact Or.inl h
        · exact Or.inr (List.mem_cons_of_mem _ h)

/-- No key is lost when another is put in its place. -/
theorem mem_keys_place {k j : κ} {v : α} {l : List (κ × α)} (h : j = k ∨ j ∈ l.map Prod.fst) :
    j ∈ (place k v l).map Prod.fst := by
  induction l with
  | nil => simpa [place] using h
  | cons d r ih =>
    obtain ⟨i, w⟩ := d
    simp only [place]
    split
    · simpa using h
    · split
      · rw [List.map_cons, List.mem_cons] at h ⊢
        rcases h with h | h | h
        · exact Or.inr (ih (Or.inl h))
        · exact Or.inl h
        · exact Or.inr (ih (Or.inr h))
      · rename_i hki hik
        have same : k = i := Key.connected k i (by simpa using hki) (by simpa using hik)
        simpa [same] using h

/-- A key behind all others is put at the end. -/
theorem place_last {k : κ} (v : α) {l : List (κ × α)} (h : ∀ e ∈ l, Key.before e.1 k = true) :
    place k v l = l ++ [(k, v)] := by
  induction l with
  | nil => rfl
  | cons d r ih =>
    obtain ⟨j, w⟩ := d
    have first : Key.before j k = true := h (j, w) List.mem_cons_self
    rw [place, Key.asymm first, if_neg Bool.false_ne_true, if_pos first,
      ih fun e he => h e (List.mem_cons_of_mem _ he)]
    rfl

theorem pairwise_place (k : κ) (v : α) {l : List (κ × α)}
    (h : l.Pairwise fun a b => Key.before a.1 b.1 = true) :
    (place k v l).Pairwise fun a b => Key.before a.1 b.1 = true := by
  induction l with
  | nil => simp [place]
  | cons d r ih =>
    obtain ⟨j, w⟩ := d
    obtain ⟨hj, hr⟩ := List.pairwise_cons.mp h
    simp only [place]
    split
    · rename_i hkj
      refine List.pairwise_cons.mpr ⟨fun e he => ?_, h⟩
      rcases List.mem_cons.mp he with rfl | he
      · exact hkj
      · exact Key.trans _ _ _ hkj (hj e he)
    · split
      · rename_i hjk
        refine List.pairwise_cons.mpr ⟨fun e he => ?_, ih hr⟩
        rcases mem_place he with rfl | he
        · exact hjk
        · exact hj e he
      · rename_i hkj hjk
        have hk : k = j := Key.connected k j (by simpa using hkj) (by simpa using hjk)
        subst hk
        exact List.pairwise_cons.mpr ⟨hj, hr⟩

def insert (t : Table κ α) (k : κ) (v : α) : Table κ α :=
  ⟨place k v t.entries, pairwise_place k v t.ascending⟩

/-- The entries whose key and value pass a test. -/
def filter (t : Table κ α) (p : κ → α → Bool) : Table κ α :=
  ⟨t.entries.filter fun e => p e.1 e.2, t.ascending.sublist List.filter_sublist⟩

def erase (t : Table κ α) (k : κ) : Table κ α :=
  t.filter fun j _ => Key.before j k || Key.before k j

/-- The entry with the least key. -/
def first? (t : Table κ α) : Option (κ × α) := t.entries.head?

/-- Changes the value under a key, when there is one. -/
def adjust (t : Table κ α) (k : κ) (f : α → α) : Table κ α :=
  match t.get? k with
  | none => t
  | some v => t.insert k (f v)

/-- Inserts in order, so that of two entries under one key the later stays. -/
def ofList (l : List (κ × α)) : Table κ α := l.foldl (fun t e => t.insert e.1 e.2) ∅

/-- Adds the entries of `u`, over those of `t` under the same keys. -/
def union (t u : Table κ α) : Table κ α := u.entries.foldl (fun t e => t.insert e.1 e.2) t

@[simp] theorem get?_empty (k : κ) : (∅ : Table κ α).get? k = none := rfl

theorem lookup_place_self (k : κ) (v : α) (l : List (κ × α)) :
    lookup k (place k v l) = some v := by
  induction l with
  | nil => simp [place, lookup, Key.irrefl]
  | cons d r ih =>
    obtain ⟨j, w⟩ := d
    simp only [place]
    split
    · simp [lookup, Key.irrefl]
    · split
      · rename_i hkj hjk
        simp [lookup, hkj, hjk, ih]
      · simp [lookup, Key.irrefl]

theorem lookup_place_of_ne {k j : κ} (v : α) (l : List (κ × α)) (h : j ≠ k) :
    lookup j (place k v l) = lookup j l := by
  have split_ne := Key.before_or_before h
  induction l with
  | nil =>
    rcases split_ne with h₁ | h₁
    · simp [place, lookup, h₁]
    · simp [place, lookup, h₁, Key.asymm h₁]
  | cons d r ih =>
    obtain ⟨i, w⟩ := d
    simp only [place]
    split
    · rename_i hki
      rcases split_ne with h₁ | h₁
      · simp [lookup, h₁, Key.trans j k i h₁ hki]
      · simp [lookup, h₁, Key.asymm h₁]
    · split
      · simp only [lookup, ih]
      · rename_i hki hik
        have hi : k = i := Key.connected k i (by simpa using hki) (by simpa using hik)
        subst hi
        rcases split_ne with h₁ | h₁
        · simp [lookup, h₁]
        · simp [lookup, h₁, Key.asymm h₁]

@[simp] theorem get?_insert_self (t : Table κ α) (k : κ) (v : α) :
    (t.insert k v).get? k = some v := lookup_place_self k v t.entries

theorem get?_insert_of_ne (t : Table κ α) {k j : κ} (v : α) (h : j ≠ k) :
    (t.insert k v).get? j = t.get? j := lookup_place_of_ne v t.entries h

/-- A key's value is the one it is stored with. -/
theorem mem_entries_iff (t : Table κ α) (k : κ) (v : α) :
    (k, v) ∈ t.entries ↔ t.get? k = some v := by
  obtain ⟨l, hl⟩ := t
  simp only [get?]
  induction l with
  | nil => simp [lookup]
  | cons d r ih =>
    obtain ⟨j, w⟩ := d
    obtain ⟨hj, hr⟩ := List.pairwise_cons.mp hl
    simp only [lookup, List.mem_cons, Prod.mk.injEq]
    split
    · rename_i hkj
      constructor
      · rintro (⟨rfl, -⟩ | h)
        · simp [Key.irrefl] at hkj
        · exact absurd (Key.trans _ _ _ hkj (hj _ h)) (by simp [Key.irrefl])
      · simp
    · split
      · rename_i hjk
        rw [ih hr]
        constructor
        · rintro (⟨rfl, -⟩ | h)
          · simp [Key.irrefl] at hjk
          · exact h
        · exact Or.inr
      · rename_i hkj hjk
        have hk : k = j := Key.connected k j (by simpa using hkj) (by simpa using hjk)
        subst hk
        constructor
        · rintro (⟨-, rfl⟩ | h)
          · rfl
          · exact absurd (hj _ h) (by simp [Key.irrefl])
        · intro h
          exact Or.inl ⟨rfl, (Option.some.inj h).symm⟩

theorem entries_eq_of_mem_iff : ∀ {l m : List (κ × α)},
    (l.Pairwise fun a b => Key.before a.1 b.1 = true) →
    (m.Pairwise fun a b => Key.before a.1 b.1 = true) →
    (∀ e, e ∈ l ↔ e ∈ m) → l = m
  | [], [], _, _, _ => rfl
  | [], e :: m, _, _, h => absurd ((h e).mpr List.mem_cons_self) (by simp)
  | d :: l, [], _, _, h => absurd ((h d).mp List.mem_cons_self) (by simp)
  | d :: l, e :: m, hl, hm, h => by
    obtain ⟨hd, hl'⟩ := List.pairwise_cons.mp hl
    obtain ⟨he, hm'⟩ := List.pairwise_cons.mp hm
    have hde : d = e := by
      rcases List.mem_cons.mp ((h d).mp List.mem_cons_self) with h₁ | h₁
      · exact h₁
      · rcases List.mem_cons.mp ((h e).mpr List.mem_cons_self) with h₂ | h₂
        · exact h₂.symm
        · exact absurd (Key.trans _ _ _ (hd e h₂) (he d h₁)) (by simp [Key.irrefl])
    subst hde
    have hrest : ∀ x, x ∈ l ↔ x ∈ m := by
      intro x
      constructor
      · intro hx
        rcases List.mem_cons.mp ((h x).mp (List.mem_cons_of_mem _ hx)) with rfl | hx'
        · exact absurd (hd x hx) (by simp [Key.irrefl])
        · exact hx'
      · intro hx
        rcases List.mem_cons.mp ((h x).mpr (List.mem_cons_of_mem _ hx)) with rfl | hx'
        · exact absurd (he x hx) (by simp [Key.irrefl])
        · exact hx'
    rw [entries_eq_of_mem_iff hl' hm' hrest]

/-- Tables that answer every look-up alike are the same table. -/
theorem ext_get? {t u : Table κ α} (h : ∀ k, t.get? k = u.get? k) : t = u := by
  have he : t.entries = u.entries := by
    refine entries_eq_of_mem_iff t.ascending u.ascending fun e => ?_
    rw [mem_entries_iff t e.1 e.2, mem_entries_iff u e.1 e.2, h]
  obtain ⟨l, hl⟩ := t
  obtain ⟨m, hm⟩ := u
  simp only at he
  subst he
  rfl

theorem get?_filter (t : Table κ α) (p : κ → α → Bool) (k : κ) :
    (t.filter p).get? k = (t.get? k).filter (p k) := by
  cases hk : t.get? k with
  | none =>
    cases hf : (t.filter p).get? k with
    | none => rfl
    | some v =>
      have hm := (mem_entries_iff (t.filter p) k v).mpr hf
      rw [(mem_entries_iff t k v).mp (List.mem_filter.mp hm).1] at hk
      contradiction
  | some v =>
    have hm := (mem_entries_iff t k v).mpr hk
    cases hp : p k v with
    | true =>
      rw [(mem_entries_iff (t.filter p) k v).mp (List.mem_filter.mpr ⟨hm, hp⟩)]
      simp [Option.filter, hp]
    | false =>
      cases hf : (t.filter p).get? k with
      | none => simp [Option.filter, hp]
      | some w =>
        have hm' := List.mem_filter.mp ((mem_entries_iff (t.filter p) k w).mpr hf)
        have hw : t.get? k = some w := (mem_entries_iff t k w).mp hm'.1
        rw [hk] at hw
        obtain rfl := Option.some.inj hw
        simp [hp] at hm'

theorem get?_insert [DecidableEq κ] (t : Table κ α) (k j : κ) (v : α) :
    (t.insert k v).get? j = if j = k then some v else t.get? j := by
  split
  · rename_i h
    rw [h, get?_insert_self]
  · rename_i h
    exact get?_insert_of_ne t v h

/-- Of two values put under one key, the later stays. -/
theorem insert_insert (t : Table κ α) (k : κ) (v w : α) :
    (t.insert k v).insert k w = t.insert k w := by
  refine ext_get? fun j => ?_
  by_cases h : j = k
  · rw [h, get?_insert_self, get?_insert_self]
  · rw [get?_insert_of_ne _ _ h, get?_insert_of_ne _ _ h, get?_insert_of_ne _ _ h]

/-- Values put under two keys may be put in either order. -/
theorem insert_comm (t : Table κ α) {k j : κ} (h : j ≠ k) (v w : α) :
    (t.insert k v).insert j w = (t.insert j w).insert k v := by
  refine ext_get? fun i => ?_
  by_cases hj : i = j
  · rw [hj, get?_insert_self, get?_insert_of_ne _ _ h, get?_insert_self]
  · rw [get?_insert_of_ne _ _ hj]
    by_cases hk : i = k
    · rw [hk, get?_insert_self, get?_insert_self]
    · rw [get?_insert_of_ne _ _ hk, get?_insert_of_ne _ _ hk, get?_insert_of_ne _ _ hj]

/-- A value that is put where it stands changes nothing. -/
theorem insert_of_get? (t : Table κ α) {k : κ} {v : α} (h : t.get? k = some v) :
    t.insert k v = t := by
  refine ext_get? fun j => ?_
  by_cases hj : j = k
  · rw [hj, get?_insert_self, h]
  · exact get?_insert_of_ne _ _ hj

theorem get?_erase_self (t : Table κ α) (k : κ) : (t.erase k).get? k = none := by
  unfold erase
  rw [get?_filter]
  cases t.get? k <;> simp [Option.filter, Key.irrefl]

theorem get?_erase_of_ne (t : Table κ α) {k j : κ} (h : j ≠ k) :
    (t.erase k).get? j = t.get? j := by
  have apart : (Key.before j k || Key.before k j) = true := by
    rw [Bool.or_eq_true]
    exact Key.before_or_before h
  unfold erase
  rw [get?_filter]
  cases t.get? j <;> simp [Option.filter, apart]

theorem size_eq_zero {t : Table κ α} (gone : ∀ k, t.get? k = none) : t.size = 0 := by
  refine List.length_eq_zero_iff.mpr (List.eq_nil_iff_forall_not_mem.mpr fun e he => ?_)
  have there := (mem_entries_iff t e.1 e.2).mp he
  rw [gone] at there
  cases there

/-- One entry goes with a key that is erased. -/
theorem size_erase (t : Table κ α) {k : κ} {v : α} (h : t.get? k = some v) :
    (t.erase k).size + 1 = t.size := by
  obtain ⟨l, hl⟩ := t
  have mem := (mem_entries_iff ⟨l, hl⟩ k v).mpr h
  simp only [size, erase, filter] at mem ⊢
  clear h
  induction l with
  | nil => cases mem
  | cons e r ih =>
    obtain ⟨he, hr⟩ := List.pairwise_cons.mp hl
    rcases List.mem_cons.mp mem with rfl | mem
    · -- the keys that follow are others
      have rest : (r.filter fun d => Key.before d.1 k || Key.before k d.1) = r :=
        List.filter_eq_self.mpr fun d hd => by simp [he d hd]
      simp [Key.irrefl, rest]
    · simp [he _ mem, ih hr mem]

theorem get?_of_first? {t : Table κ α} {k : κ} {v : α} (h : t.first? = some (k, v)) :
    t.get? k = some v := (mem_entries_iff t k v).mp (List.mem_of_head? h)

theorem get?_of_first?_eq_none {t : Table κ α} (h : t.first? = none) (k : κ) :
    t.get? k = none := by
  have none_there : t.entries = [] := List.head?_eq_none_iff.mp h
  rw [get?, none_there, lookup]

/-- The first key comes before every other. -/
theorem before_of_first? {t : Table κ α} {k j : κ} {v w : α} (h : t.first? = some (k, v))
    (hj : t.get? j = some w) : j = k ∨ Key.before k j = true := by
  obtain ⟨r, hr⟩ := List.head?_eq_some_iff.mp h
  have mem := (mem_entries_iff t j w).mpr hj
  have ascending := t.ascending
  rw [hr] at mem ascending
  rcases List.mem_cons.mp mem with same | later
  · exact Or.inl (congrArg Prod.fst same)
  · exact Or.inr ((List.pairwise_cons.mp ascending).1 _ later)

theorem mem_values_iff (t : Table κ α) (v : α) : v ∈ t.values ↔ ∃ k, t.get? k = some v := by
  constructor
  · intro h
    obtain ⟨⟨k, w⟩, he, rfl⟩ := List.mem_map.mp h
    exact ⟨k, (mem_entries_iff t k w).mp he⟩
  · rintro ⟨k, h⟩
    exact List.mem_map.mpr ⟨(k, v), (mem_entries_iff t k v).mpr h, rfl⟩

/-- Values that tell the keys they stand under. -/
theorem map_values_eq_keys (t : Table κ α) {f : α → κ} (h : ∀ k v, t.get? k = some v → f v = k) :
    t.values.map f = t.keys := by
  unfold values keys
  rw [List.map_map]
  exact List.map_congr_left fun e he => h e.1 e.2 ((mem_entries_iff t e.1 e.2).mp he)

/-- Every key is there once. -/
theorem nodup_keys (t : Table κ α) : t.keys.Nodup := by
  refine List.pairwise_map.mpr (t.ascending.imp fun {a b} before same => ?_)
  rw [same, Key.irrefl] at before
  cases before

end Table

end TenantBilling
