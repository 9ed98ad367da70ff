import Courier.Json.Text
import Courier.Text.Quoted
import Courier.Json.Node

/-! What can be wrong with a document that is read as a certain type. -/
namespace Courier.Json

/-- What stands where something else was expected. -/
inductive Found where
  | null
  | bool (b : Bool)
  | int (n : Int)
  | real
  | text (s : String)
  | list
  | object
  deriving DecidableEq

/-- `malformed` is a document that breaks the rules of the notation itself. -/
inductive Issue where
  | malformed
  | missingField (name : String)
  | duplicateField (name : String)
  | invalidType (found : Found) (expected : String)
  | invalidValue (found : Found) (expected : String)
  | invalidLength (length : Nat) (expected : String)
  deriving DecidableEq

def Found.describe : Found → String
  | .null => "null"
  | .bool b => "boolean `" ++ (if b then "true" else "false") ++ "`"
  | .int n => "integer `" ++ toString n ++ "`"
  | .real => "floating point"
  | .text s => "string " ++ Text.quote s
  | .list => "sequence"
  | .object => "map"

def Issue.message : Issue → String
  | .malformed => "syntax"
  | .missingField name => "missing field `" ++ name ++ "`"
  | .duplicateField name => "duplicate field `" ++ name ++ "`"
  | .invalidType found expected => "invalid type: " ++ found.describe ++ ", expected " ++ expected
  | .invalidValue found expected => "invalid value: " ++ found.describe ++ ", expected " ++ expected
  | .invalidLength n expected => "invalid length " ++ toString n ++ ", expected " ++ expected

/-- What `n` is found to be, if it is well formed as far as one has to look. -/
def Node.found? : Node → Option Found
  | .null => some .null
  | .bool b => some (.bool b)
  | .numeral n => n.value?.map fun
    | .int i => .int i
    | .real _ _ => .real
  | .text raw => (decodeText? raw).map .text
  | .list _ _ => some .list
  | .object _ _ => some .object
  | .broken => none

/-- The issue of finding `n` where `expected` is due. -/
def Node.mismatch (n : Node) (expected : String) : Issue :=
  match n.found? with
  | none => .malformed
  | some found => .invalidType found expected

end Courier.Json
