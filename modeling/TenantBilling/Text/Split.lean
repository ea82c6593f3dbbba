/-! Cutting a text at a separating character. -/

namespace TenantBilling.Text

/-- The parts between separators: one more part than there are separators. -/
def splitAll (sep : Char) : List Char → List (List Char)
  | [] => [[]]
  | c :: cs =>
    match splitAll sep cs with
    | [] => [[]]
    | part :: parts => if c = sep then [] :: part :: parts else (c :: part) :: parts

/-- What stands before and after the first separator. -/
def splitFirst? (sep : Char) : List Char → Option (List Char × List Char)
  | [] => none
  | c :: cs =>
    if c = sep then some ([], cs)
    else (splitFirst? sep cs).map fun (key, value) => (c :: key, value)

theorem splitAll_ne_nil (sep : Char) (cs : List Char) : splitAll sep cs ≠ [] := by
  cases cs with
  | nil => simp [splitAll]
  | cons c cs =>
    simp only [splitAll]
    split
    · simp
    · split <;> simp

theorem splitAll_append (sep : Char) (cs ds : List Char) :
    splitAll sep (cs ++ sep :: ds) = splitAll sep cs ++ splitAll sep ds := by
  induction cs with
  | nil =>
    cases h : splitAll sep ds with
    | nil => exact absurd h (splitAll_ne_nil sep ds)
    | cons part parts => simp [splitAll, h]
  | cons c cs ih =>
    cases h : splitAll sep cs with
    | nil => exact absurd h (splitAll_ne_nil sep cs)
    | cons part parts =>
      simp only [List.cons_append, splitAll, ih, h]
      split <;> rfl

theorem splitAll_of_not_mem {sep : Char} {cs : List Char} (h : sep ∉ cs) :
    splitAll sep cs = [cs] := by
  induction cs with
  | nil => rfl
  | cons c cs ih =>
    obtain ⟨hc, hcs⟩ := not_or.mp (mt List.mem_cons.mpr h)
    simp only [splitAll, ih hcs, if_neg (Ne.symm hc)]

theorem splitFirst?_append {sep : Char} {key : List Char} (h : sep ∉ key) (value : List Char) :
    splitFirst? sep (key ++ sep :: value) = some (key, value) := by
  induction key with
  | nil => simp [splitFirst?]
  | cons c key ih =>
    obtain ⟨hc, hkey⟩ := not_or.mp (mt List.mem_cons.mpr h)
    simp [splitFirst?, Ne.symm hc, ih hkey]

theorem splitFirst?_eq_none_iff (sep : Char) (cs : List Char) :
    splitFirst? sep cs = none ↔ sep ∉ cs := by
  induction cs with
  | nil => simp [splitFirst?]
  | cons c cs ih =>
    by_cases h : c = sep
    · simp [splitFirst?, h]
    · simp [splitFirst?, h, ih, Ne.symm h]

end TenantBilling.Text
