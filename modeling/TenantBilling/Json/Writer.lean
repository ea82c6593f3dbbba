import TenantBilling.Json.Shortest
import TenantBilling.Json.Value

/-! The compact text of a value: no space between its parts, and escapes only for quotes,
backslashes and control characters. -/

namespace TenantBilling.Json

def escaped (c : Char) : List Char :=
  if c = '"' then ['\\', '"']
  else if c = '\\' then ['\\', '\\']
  else if c = '\x08' then ['\\', 'b']
  else if c = '\x0c' then ['\\', 'f']
  else if c = '\n' then ['\\', 'n']
  else if c = '\r' then ['\\', 'r']
  else if c = '\t' then ['\\', 't']
  else if c.toNat < 0x20 then
    ['\\', 'u', '0', '0', Text.Hex.digit (c.toNat / 16), Text.Hex.digit (c.toNat % 16)]
  else [c]

def quoted (s : String) : List Char := '"' :: s.toList.flatMap escaped ++ ['"']

def Number.print : Number → List Char
  | .int n => Text.Numeral.decimal n
  | .float bits => Shortest.text bits

namespace Value

mutual

def print : Value → List Char
  | .null => ['n', 'u', 'l', 'l']
  | .bool true => ['t', 'r', 'u', 'e']
  | .bool false => ['f', 'a', 'l', 's', 'e']
  | .number n => n.print
  | .string s => quoted s
  | .array vs => '[' :: printItems vs ++ [']']
  | .object ms => '\x7b' :: printMembers ms ++ ['\x7d']

def printItems : List Value → List Char
  | [] => []
  | [v] => print v
  | v :: w :: vs => print v ++ ',' :: printItems (w :: vs)

def printMembers : List (String × Value) → List Char
  | [] => []
  | [(k, v)] => quoted k ++ ':' :: print v
  | (k, v) :: m :: ms => quoted k ++ ':' :: print v ++ ',' :: printMembers (m :: ms)

end

/-- The compact text of a value. -/
def text (v : Value) : String := String.ofList v.print

end Value

end TenantBilling.Json
