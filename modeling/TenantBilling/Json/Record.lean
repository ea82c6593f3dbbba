import TenantBilling.Json.Value

/-! Records read from JSON. A record is an object with its fields as members, or an array with
its fields in order; both become slots, from which each field is read by name. The same
slots serve for a document's tree, where a member stands once, and for a value. -/

namespace TenantBilling.Json

/-- The fields found for a record. -/
structure Slots (ν : Type) where
  /-- Whether they come from an array, in which only fields with a default may be missing. -/
  positional : Bool
  found : List (String × ν)

namespace Slots
variable {ν α : Type}

def get? (s : Slots ν) (name : String) : Option ν :=
  (s.found.find? fun f => f.1 == name).map Prod.snd

/-- A field that has to be there. -/
def required (s : Slots ν) (name : String) (read : ν → Option α) : Option α :=
  (s.get? name).bind read

/-- A field that takes a given value when it is missing. -/
def defaulted (s : Slots ν) (name : String) (default : α) (read : ν → Option α) : Option α :=
  match s.get? name with
  | none => some default
  | some v => read v

/-- A field that an object may leave out but an array may not. -/
def nullable (s : Slots ν) (name : String) (read : ν → Option (Option α)) : Option (Option α) :=
  match s.get? name with
  | none => if s.positional then none else some none
  | some v => read v

end Slots

/-- The names given to the elements of an array, when there are not too many elements. -/
def zipFields {ν : Type} : List String → List ν → Option (List (String × ν))
  | _, [] => some []
  | [], _ :: _ => none
  | name :: names, v :: vs => (zipFields names vs).map ((name, v) :: ·)

/-- A part of a document and how many levels it may nest. -/
structure Site where
  depth : Nat
  tree : Tree

namespace Site
variable {α : Type}

def ofBytes? (bytes : List UInt8) : Option Site :=
  (Tree.ofBytes? bytes).map fun t => ⟨deepest, t⟩

def bool? (s : Site) : Option Bool :=
  match s.tree with
  | .bool b => some b
  | _ => none

def integer? (s : Site) : Option Int :=
  match s.tree with
  | .number l =>
    match l.number? with
    | some (.int n) => some n
    | _ => none
  | _ => none

def int64? (s : Site) : Option Int := s.integer?.filter Text.fitsInt64

/-- An integer within the given bounds. -/
def within? (least greatest : Int) (s : Site) : Option Int :=
  s.integer?.filter fun n => least ≤ n && n ≤ greatest

def nat64? (s : Site) : Option Nat :=
  s.integer?.bind fun n => if 0 ≤ n ∧ n ≤ Text.nat64Greatest then some n.toNat else none

def text? (s : Site) : Option String :=
  match s.tree with
  | .string ps => Piece.text? ps
  | _ => none

def value? (s : Site) : Option Value := s.tree.toValue? Value.ofText? s.depth

/-- Null, or what the reader gives. -/
def optional (read : Site → Option α) (s : Site) : Option (Option α) :=
  match s.tree with
  | .null => some none
  | _ => (read s).map some

/-- The elements of an array. -/
def elements? (s : Site) : Option (List Site) :=
  match s.tree, s.depth with
  | .array ts, depth + 1 => some (ts.map (⟨depth, ·⟩))
  | _, _ => none

def list? (read : Site → Option α) (s : Site) : Option (List α) :=
  s.elements?.bind fun sites => sites.mapM read

/-- The known members of an object, each of which may stand once. All keys have to be texts. -/
def known? (names : List String) (depth : Nat) :
    List (List Piece × Tree) → Option (List (String × Site))
  | [] => some []
  | (k, t) :: ms => do
    let k ← Piece.text? k
    let rest ← known? names depth ms
    if names.contains k then
      if rest.any fun f => f.1 == k then none else pure ((k, ⟨depth, t⟩) :: rest)
    else pure rest

def slots? (names : List String) (s : Site) : Option (Slots Site) :=
  match s.tree, s.depth with
  | .object ms, depth + 1 => (known? names depth ms).map (⟨false, ·⟩)
  | .array ts, depth + 1 => (zipFields names (ts.map (⟨depth, ·⟩))).map (⟨true, ·⟩)
  | _, _ => none

/-- One of a set of names, as a text or as the one key of an object over null. -/
def variant? (parse : String → Option α) (s : Site) : Option α :=
  match s.tree, s.depth with
  | .string ps, _ => (Piece.text? ps).bind parse
  | .object [(k, .null)], _ + 1 => (Piece.text? k).bind parse
  | _, _ => none

end Site

namespace Value
variable {α : Type}

def text? : Value → Option String
  | .string s => some s
  | _ => none

def int64? : Value → Option Int
  | .number (.int n) => if Text.fitsInt64 n then some n else none
  | _ => none

def optional (read : Value → Option α) : Value → Option (Option α)
  | .null => some none
  | v => (read v).map some

def list? (read : Value → Option α) : Value → Option (List α)
  | .array vs => vs.mapM read
  | _ => none

def textMap? : Value → Option (Table String String)
  | .object ms =>
    (ms.mapM fun (m : String × Value) => m.2.text?.map fun s => (m.1, s)).map Table.ofList
  | _ => none

def slots? (names : List String) : Value → Option (Slots Value)
  | .object ms => some ⟨false, ms.filter fun m => names.contains m.1⟩
  | .array vs => (zipFields names vs).map (⟨true, ·⟩)
  | _ => none

end Value

end TenantBilling.Json
