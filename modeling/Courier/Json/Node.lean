import Courier.Json.Token

/-! Documents as trees. A tree is built from the tokens alone, in one pass; where the tokens stop
making sense, it ends in `broken` or in a list or object that is not closed. -/
namespace Courier.Json

/-- A text and a key hold the bytes between their quotes. -/
inductive Node where
  | null
  | bool (b : Bool)
  | numeral (n : Numeral)
  | text (raw : Bytes)
  | list (items : List Node) (closed : Bool)
  | object (members : List (Bytes × Node)) (closed : Bool)
  | broken
  deriving Inhabited

abbrev Member := Bytes × Node

/-- A list or object that is still open, its contents so far with the last one first. An object may
wait for the value of a key. -/
inductive Frame where
  | list (done : List Node)
  | object (done : List Member) (key : Option Bytes)

/-- What has been read. -/
inductive Progress where
  /-- A value has to come. -/
  | value (stack : List Frame)
  /-- The first item of a list or its end has to come. -/
  | firstItem (stack : List Frame)
  /-- The first key of an object or its end has to come. -/
  | firstKey (stack : List Frame)
  | key (stack : List Frame)
  | colon (stack : List Frame)
  /-- A comma or an end has to come. -/
  | next (stack : List Frame)
  /-- The document is complete. -/
  | done (root : Node)
  /-- Something follows the complete document. -/
  | trailed (root : Node)
  /-- The tokens broke off. -/
  | broke (root : Node)

/-- Puts a value into the innermost open list or object. -/
def put (v : Node) : List Frame → Progress
  | [] => .done v
  | .list done :: stack => .next (.list (v :: done) :: stack)
  | .object done (some key) :: stack => .next (.object ((key, v) :: done) none :: stack)
  | .object done none :: stack => .next (.object done none :: stack)

/-- The tree so far, with `v` in the innermost place, and nothing closed. -/
def collapse (v : Option Node) : List Frame → Node
  | [] => v.getD .broken
  | .list done :: stack => collapse (some (.list (v.toList ++ done).reverse false)) stack
  | .object done key :: stack =>
    let last := match key with
      | none => []
      | some k => [(k, v.getD .broken)]
    collapse (some (.object (last ++ done).reverse false)) stack

/-- Starts a value with the token `t`. -/
def startValue (stack : List Frame) : Token → Progress
  | .null => put .null stack
  | .bool b => put (.bool b) stack
  | .numeral n => put (.numeral n) stack
  | .text raw => put (.text raw) stack
  | .openBracket => .firstItem (.list [] :: stack)
  | .openBrace => .firstKey (.object [] none :: stack)
  | _ => .broke (collapse (some .broken) stack)

/-- Takes a key of the innermost object. -/
def startMember (raw : Bytes) : List Frame → Progress
  | .object done _ :: stack => .colon (.object done (some raw) :: stack)
  | stack => .broke (collapse none stack)

/-- Closes the innermost list. -/
def closeList : List Frame → Progress
  | .list done :: stack => put (.list done.reverse true) stack
  | stack => .broke (collapse none stack)

/-- Closes the innermost object. -/
def closeObject : List Frame → Progress
  | .object done none :: stack => put (.object done.reverse true) stack
  | stack => .broke (collapse none stack)

/-- After a comma. -/
def another : List Frame → Progress
  | .list done :: stack => .value (.list done :: stack)
  | stack => .key stack

def Progress.step : Progress → Token → Progress
  | .value stack, t => startValue stack t
  | .firstItem stack, .closeBracket => closeList stack
  | .firstItem stack, t => startValue stack t
  | .firstKey stack, .closeBrace => closeObject stack
  | .firstKey stack, .text raw => startMember raw stack
  | .key stack, .text raw => startMember raw stack
  | .colon stack, .colon => .value stack
  | .next stack, .comma => another stack
  | .next stack, .closeBracket => closeList stack
  | .next stack, .closeBrace => closeObject stack
  | .firstKey stack, _ => .broke (collapse none stack)
  | .key stack, _ => .broke (collapse none stack)
  | .colon stack, _ => .broke (collapse none stack)
  | .next stack, _ => .broke (collapse none stack)
  | .done root, _ => .trailed root
  | .trailed root, _ => .trailed root
  | .broke root, _ => .broke root

/-- The tree of a document, and whether anything follows it. -/
structure Document where
  root : Node
  trailed : Bool

def Progress.document : Progress → Document
  | .value stack | .firstItem stack => ⟨collapse (some .broken) stack, false⟩
  | .firstKey stack | .key stack | .colon stack | .next stack => ⟨collapse none stack, false⟩
  | .done root | .broke root => ⟨root, false⟩
  | .trailed root => ⟨root, true⟩

def Document.ofTokens (ts : List Token) : Document :=
  (ts.foldl Progress.step (.value [])).document

def Document.ofBytes (bs : Bytes) : Document := .ofTokens (tokens bs)

/-- Nothing is missing inside: only the end of a document can be broken, so the outermost mark
tells. -/
def Node.isWhole : Node → Bool
  | .broken => false
  | .list _ closed => closed
  | .object _ closed => closed
  | _ => true

end Courier.Json
