import Courier.Exchange
import Courier.Json.Reading

/-! The types that payloads can have. A payload is a value that has the shape of its type. -/
namespace Courier

abbrev Payload := Json.Value

inductive Scalar where
  | text
  | int (range : Json.IntRange)
  | flag
  | unit
  deriving DecidableEq

/-- `guarded` is a text that cannot be written if it is `refused`. The fields of a record are
written in the order given here. -/
inductive Shape where
  | scalar (s : Scalar)
  | guarded (refused reason : String)
  | optional (s : Scalar)
  | list (s : Scalar)
  | record (name : String) (fields : List (String × Scalar))
  | any

/-- Exchanges and contracts tell payload types apart by their tags alone. -/
structure PayloadType where
  tag : String
  shape : Shape

namespace Scalar
open Json

def u8 : Scalar := .int ⟨"u8", 0, 255⟩

def u32 : Scalar := .int ⟨"u32", 0, 4294967295⟩

def u64 : Scalar := .int ⟨"u64", 0, 18446744073709551615⟩

def i64 : Scalar := .int ⟨"i64", -9223372036854775808, 9223372036854775807⟩

def read (s : Scalar) (n : Node) : Reading Value :=
  match s with
  | .text => n.readText.map .text
  | .int range => (n.readInt range).map .int
  | .flag => n.readBool.map .bool
  | .unit => n.readUnit.map fun _ => .null

end Scalar

namespace Shape
open Json

/-- How deep lists and objects may be nested in a payload: 127 levels in a document, of which the
envelope is one. -/
def maxDepth : Nat := 126

/-- What a record with so many fields is called. -/
def recordTitle (name : String) (fields : Nat) : String :=
  "struct " ++ name ++ " with " ++ toString fields ++
    (if fields = 1 then " element" else " elements")

def readFieldItems (title : String) :
    Nat → List (String × Scalar) → Items → Reading (List (String × Value))
  | _, [], items => do
    items.finish
    return []
  | position, (name, s) :: fields, items => do
    let (v, rest) ← items.field position title s.read
    return (name, v) :: (← readFieldItems title (position + 1) fields rest)

/-- Takes a member into the fields read so far; members that are no fields are passed over. -/
def readFieldMember (fields : List (String × Scalar)) (draft : List (String × Value)) (key : String)
    (n : Node) : Reading (List (String × Value)) :=
  match fields.lookup key with
  | none => n.skip.map fun _ => draft
  | some s => do
    match ← fill key (draft.lookup key) (s.read n) with
    | some v => return (key, v) :: draft
    | none => return draft

/-- The fields of a finished draft, in their own order. -/
def orderFields (draft : List (String × Value)) :
    List (String × Scalar) → Reading (List (String × Value))
  | [] => .ok []
  | (name, _) :: fields =>
    match draft.lookup name with
    | none => .error (.missingField name)
    | some v => (orderFields draft fields).map ((name, v) :: ·)

def readRecord (name : String) (fields : List (String × Scalar)) (n : Node) : Reading Value := do
  let found ← n.readRecord ("struct " ++ name)
    (readFieldItems (recordTitle name fields.length) 0 fields)
    fun members closed => do
      orderFields (← readMembers (readFieldMember fields) [] members closed) fields
  return .object found

def readList (s : Scalar) : Node → Reading Value
  | .list items closed => do
    let values ← items.mapM s.read
    if closed then .ok (.list values) else .error .malformed
  | n => .error (n.mismatch "a sequence")

def read (s : Shape) (n : Node) : Reading Value :=
  match s with
  | .scalar s => s.read n
  | .guarded _ _ => n.readText.map .text
  | .optional s => match n with
    | .null => .ok .null
    | n => s.read n
  | .list s => readList s n
  | .record name fields => readRecord name fields n
  | .any => n.readValue maxDepth

/-- What stands for a payload that is missing altogether. -/
def absent? : Shape → Option Value
  | .optional _ => some .null
  | _ => none

/-- Some values of a shape cannot be written. -/
def check (s : Shape) (v : Value) : Except String Unit :=
  match s, v with
  | .guarded refused reason, .text t => if t = refused then .error reason else .ok ()
  | _, _ => .ok ()

end Shape

namespace PayloadType

def text : PayloadType := ⟨Exchange.textTag, .scalar .text⟩

/-- The payload types that have a name; any other name means plain text. -/
def named : String → PayloadType
  | "u64" => ⟨"u64", .scalar .u64⟩
  | "u32" => ⟨"u32", .scalar .u32⟩
  | "i64" => ⟨"i64", .scalar .i64⟩
  | "u8" => ⟨"u8", .scalar .u8⟩
  | "bool" => ⟨"bool", .scalar .flag⟩
  | "unit" => ⟨"()", .scalar .unit⟩
  | "Value" => ⟨"serde_json::value::Value", .any⟩
  | "User" => ⟨"oracle_driver::spec::User", .record "User" [("name", .text), ("age", .u32)]⟩
  | "Order" => ⟨"oracle_driver::spec::Order", .record "Order" [("number", .u32)]⟩
  | "Picky" => ⟨"oracle_driver::spec::Picky", .guarded "bad" "cannot serialize this"⟩
  | "OptString" => ⟨"core::option::Option<alloc::string::String>", .optional .text⟩
  | "VecU64" => ⟨"alloc::vec::Vec<u64>", .list .u64⟩
  | _ => text

end PayloadType
end Courier
