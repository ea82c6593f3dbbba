import TenantBilling.Json.Tree
import TenantBilling.Table

/-! JSON values proper: texts of Unicode scalar values, numbers within range, objects as maps
in key order. A tree has a value when everything in it does and its depth is bounded. An
object marked as embedded stands for the document that its text holds. -/

namespace TenantBilling.Json

inductive Value where
  | null
  | bool (b : Bool)
  | number (n : Number)
  | string (s : String)
  | array (items : List Value)
  | object (members : List (String × Value))

instance : Inhabited Value := ⟨.null⟩

/-- Levels of arrays and objects a document may nest. -/
def deepest : Nat := 127

/-- The key that marks an object as an embedded document when it stands first in it. -/
def embeddedKey : String := "$serde_json::private::RawValue"

namespace Piece

def isHighSurrogate (u : Nat) : Bool := 0xD800 ≤ u && u < 0xDC00

def isLowSurrogate (u : Nat) : Bool := 0xDC00 ≤ u && u < 0xE000

/-- The bytes a string literal stands for; a surrogate outside a pair stands for none. -/
def bytes? : List Piece → Option (List UInt8)
  | [] => some []
  | .byte b :: r => (bytes? r).map (b :: ·)
  | .escape c :: r => (bytes? r).map (String.utf8EncodeChar c ++ ·)
  | .unit u :: r =>
    if isHighSurrogate u then
      match r with
      | .unit v :: r =>
        if isLowSurrogate v then
          let c := Char.ofNat (0x10000 + (u - 0xD800) * 1024 + (v - 0xDC00))
          (bytes? r).map (String.utf8EncodeChar c ++ ·)
        else none
      | _ => none
    else if isLowSurrogate u then none
    else (bytes? r).map (String.utf8EncodeChar (Char.ofNat u) ++ ·)

def text? (pieces : List Piece) : Option String := (bytes? pieces).bind Text.Utf8.text?

end Piece

namespace Tree

/-- Whether the members are those of an embedded document. -/
def isEmbedded : List (List Piece × Tree) → Bool
  | (k, _) :: _ => Piece.text? k == some embeddedKey
  | [] => false

/-- The text of an embedded document, which has to be a string and the only member. -/
def embeddedText? : List (List Piece × Tree) → Option String
  | [(_, .string ps)] => Piece.text? ps
  | _ => none

mutual

/-- The value of a tree that nests at most `depth` levels. The texts of embedded documents
are read by `document`. -/
def toValue? (document : String → Option Value) (depth : Nat) : Tree → Option Value
  | .null => some .null
  | .bool b => some (.bool b)
  | .number l => l.number?.map .number
  | .string ps => (Piece.text? ps).map .string
  | .array ts =>
    match depth with
    | 0 => none
    | depth + 1 => (toValues? document depth ts).map .array
  | .object ms =>
    match depth with
    | 0 => none
    | depth + 1 =>
      if isEmbedded ms then (embeddedText? ms).bind document
      else (toMembers? document depth [] ms).map .object

def toValues? (document : String → Option Value) (depth : Nat) : List Tree → Option (List Value)
  | [] => some []
  | t :: ts =>
    (toValue? document depth t).bind fun v => (toValues? document depth ts).map (v :: ·)

/-- Members in key order; of two under one key the later stays. -/
def toMembers? (document : String → Option Value) (depth : Nat) (above : List (String × Value)) :
    List (List Piece × Tree) → Option (List (String × Value))
  | [] => some above
  | (k, t) :: ms =>
    (Piece.text? k).bind fun k => (toValue? document depth t).bind fun v =>
      toMembers? document depth (Table.place k v above) ms

end

end Tree

namespace Value

/-- The value of a document in which documents are embedded in at most `levels` steps. Each
step may nest as deep again. -/
def ofLevels? : Nat → List UInt8 → Option Value
  | 0, _ => none
  | levels + 1, bytes =>
    (Tree.ofBytes? bytes).bind
      (Tree.toValue? (fun s => ofLevels? levels (Text.Utf8.bytes s)) deepest)

/-- The value of a whole document. An embedded document is shorter than the one around it, so
there are fewer steps than bytes. -/
def ofBytes? (bytes : List UInt8) : Option Value := ofLevels? (bytes.length + 1) bytes

/-- The value of a document that is given as a text. -/
def ofText? (s : String) : Option Value := ofBytes? (Text.Utf8.bytes s)

def int (n : Int) : Value := .number (.int n)

def member? (v : Value) (name : String) : Option Value :=
  match v with
  | .object ms => (ms.find? fun m => m.1 == name).map Prod.snd
  | _ => none

def isNull : Value → Bool
  | .null => true
  | _ => false

end Value

end TenantBilling.Json
