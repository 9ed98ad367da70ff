import Courier.Json.Issue
import Courier.Json.Value

/-! Reading the nodes of a document as values of a type. A document is read from left to right and
the first thing that is wrong counts. -/
namespace Courier.Json

abbrev Reading (α : Type) := Except Issue α

/-- Whole numbers from `low` to `high`; `name` is what such a number is called. -/
structure IntRange where
  name : String
  low : Int
  high : Int
  deriving DecidableEq

namespace Node

def readText : Node → Reading String
  | .text raw => match decodeText? raw with
    | some s => .ok s
    | none => .error .malformed
  | n => .error (n.mismatch "a string")

def readBool : Node → Reading Bool
  | .bool b => .ok b
  | n => .error (n.mismatch "a boolean")

def readUnit : Node → Reading Unit
  | .null => .ok ()
  | n => .error (n.mismatch "unit")

def readInt (range : IntRange) (n : Node) : Reading Int :=
  match n with
  | .numeral x => match x.value? with
    | some (.int i) =>
      if range.low ≤ i ∧ i ≤ range.high then .ok i else .error (.invalidValue (.int i) range.name)
    | some (.real _ _) => .error (.invalidType .real range.name)
    | none => .error .malformed
  | n => .error (n.mismatch range.name)

def readUInt16 (n : Node) : Reading UInt16 :=
  (n.readInt ⟨"u16", 0, 65535⟩).map fun i => UInt16.ofNat i.toNat

def readUInt64 (n : Node) : Reading UInt64 :=
  (n.readInt ⟨"u64", 0, 18446744073709551615⟩).map fun i => UInt64.ofNat i.toNat

/-- Passes over a value that nobody asks for. -/
def skip (n : Node) : Reading Unit := if n.isWhole then .ok () else .error .malformed

/-- Reads any value in which lists and objects are nested no more than `depth` deep. -/
def readValue : Nat → Node → Reading Value
  | _, .null => .ok .null
  | _, .bool b => .ok (.bool b)
  | _, .numeral n => match n.value? with
    | some x => .ok (.number x)
    | none => .error .malformed
  | _, .text raw => match decodeText? raw with
    | some s => .ok (.text s)
    | none => .error .malformed
  | depth + 1, .list items closed => do
    let values ← items.mapM (readValue depth)
    if closed then .ok (.list values) else .error .malformed
  | depth + 1, .object members closed => do
    let entries ← members.mapM fun (raw, n) =>
      match decodeText? raw with
      | none => .error .malformed
      | some key => (readValue depth n).map ((key, ·))
    if closed then .ok (.object (Keyed.ofEntries entries)) else .error .malformed
  | 0, .list _ _ => .error .malformed
  | 0, .object _ _ => .error .malformed
  | _, .broken => .error .malformed

end Node

/-- A list that is read item by item. -/
structure Items where
  left : List Node
  closed : Bool

namespace Items

/-- The next item, or none at the end of the list. -/
def next : Items → Reading (Option (Node × Items))
  | ⟨n :: left, closed⟩ => .ok (some (n, ⟨left, closed⟩))
  | ⟨[], true⟩ => .ok none
  | ⟨[], false⟩ => .error .malformed

/-- Nothing may be left at the end. -/
def finish (items : Items) : Reading Unit :=
  if items.left.isEmpty && items.closed then .ok () else .error .malformed

/-- The next item read by `read`; the list has to hold `position` items before it and one more. -/
def field {α : Type} (items : Items) (position : Nat) (expected : String)
    (read : Node → Reading α) : Reading (α × Items) := do
  match ← items.next with
  | none => .error (.invalidLength position expected)
  | some (n, rest) => return (← read n, rest)

/-- The next item read by `read`, or `fallback` at the end of the list. -/
def fieldOr {α : Type} (items : Items) (fallback : α) (read : Node → Reading α) :
    Reading (α × Items) := do
  match ← items.next with
  | none => return (fallback, items)
  | some (n, rest) => return (← read n, rest)

end Items

/-- Reads the members of an object one after the other into a draft. -/
def readMembers {σ : Type} (step : σ → String → Node → Reading σ) :
    σ → List Member → Bool → Reading σ
  | draft, [], closed => if closed then .ok draft else .error .malformed
  | draft, (raw, n) :: rest, closed =>
    match decodeText? raw with
    | none => .error .malformed
    | some key => do readMembers step (← step draft key n) rest closed

/-- Fills a field that must still be empty. -/
def fill {α : Type} (name : String) (old : Option α) (new : Reading α) : Reading (Option α) :=
  match old with
  | some _ => .error (.duplicateField name)
  | none => new.map some

/-- A record is written as an object or as the list of its fields. -/
def Node.readRecord {α : Type} (n : Node) (expected : String) (ofItems : Items → Reading α)
    (ofMembers : List Member → Bool → Reading α) : Reading α :=
  match n with
  | .list items closed => ofItems ⟨items, closed⟩
  | .object members closed => ofMembers members closed
  | n => .error (n.mismatch expected)

/-- Reads a whole document; nothing may follow it. -/
def Document.read {α : Type} (d : Document) (read : Node → Reading α) : Reading α := do
  let a ← read d.root
  if d.trailed then .error .malformed else .ok a

end Courier.Json
