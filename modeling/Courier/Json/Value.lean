import Courier.Json.Text
import Courier.Keyed

/-! Values and how they are written. -/
namespace Courier.Json

inductive Value where
  | null
  | bool (b : Bool)
  | number (n : Number)
  | text (s : String)
  | list (items : List Value)
  | object (members : List (String × Value))
  deriving Inhabited

namespace Value

abbrev int (n : Int) : Value := .number (.int n)

mutual

/-- The value without any blanks. -/
def bytes : Value → Bytes
  | .null => [0x6E, 0x75, 0x6C, 0x6C]
  | .bool true => [0x74, 0x72, 0x75, 0x65]
  | .bool false => [0x66, 0x61, 0x6C, 0x73, 0x65]
  | .number n => n.bytes
  | .text s => textBytes s
  | .list items => 0x5B :: itemsBytes items ++ [0x5D]
  | .object members => 0x7B :: membersBytes members ++ [0x7D]

def itemsBytes : List Value → Bytes
  | [] => []
  | v :: vs => bytes v ++ moreItemsBytes vs

def moreItemsBytes : List Value → Bytes
  | [] => []
  | v :: vs => 0x2C :: bytes v ++ moreItemsBytes vs

def membersBytes : List (String × Value) → Bytes
  | [] => []
  | (k, v) :: ms => textBytes k ++ 0x3A :: bytes v ++ moreMembersBytes ms

def moreMembersBytes : List (String × Value) → Bytes
  | [] => []
  | (k, v) :: ms => 0x2C :: textBytes k ++ 0x3A :: bytes v ++ moreMembersBytes ms

end

mutual

/-- Equality of values; numbers are compared by what they are worth. -/
def same : Value → Value → Bool
  | .null, .null => true
  | .bool a, .bool b => a == b
  | .number a, .number b => a.same b
  | .text a, .text b => a == b
  | .list a, .list b => sameItems a b
  | .object a, .object b => sameMembers a b
  | _, _ => false

def sameItems : List Value → List Value → Bool
  | [], [] => true
  | a :: as, b :: bs => same a b && sameItems as bs
  | _, _ => false

def sameMembers : List (String × Value) → List (String × Value) → Bool
  | [], [] => true
  | (j, a) :: as, (k, b) :: bs => j == k && same a b && sameMembers as bs
  | _, _ => false

end

end Value
end Courier.Json
