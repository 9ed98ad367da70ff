import Courier.Schema

/-! Envelopes: the form in which a payload travels, with the id of its message. -/
namespace Courier

structure Envelope where
  id : String
  payload : Payload

namespace Envelope
open Json

/-- An envelope is written as an object with the id first. -/
def toValue (e : Envelope) : Value := .object [("id", .text e.id), ("msg", e.payload)]

def encode (t : PayloadType) (e : Envelope) : Except String Bytes :=
  (t.shape.check e.payload).map fun _ => e.toValue.bytes

/-- The fields read so far. -/
structure Draft where
  id : Option String := none
  msg : Option Payload := none

/-- The payload may be called `body`, too. -/
def readMember (t : PayloadType) (draft : Draft) (key : String) (n : Node) : Reading Draft :=
  if key = "id" then (fill "id" draft.id n.readText).map ({ draft with id := · })
  else if key = "msg" ∨ key = "body" then
    (fill "msg" draft.msg (t.shape.read n)).map ({ draft with msg := · })
  else n.skip.map fun _ => draft

/-- The envelope of a draft, if nothing is missing. -/
def ofDraft (t : PayloadType) (draft : Draft) : Reading Envelope :=
  match draft.id, draft.msg.or t.shape.absent? with
  | some id, some msg => .ok ⟨id, msg⟩
  | none, _ => .error (.missingField "id")
  | some _, none => .error (.missingField "msg")

def title : String := "struct Envelope with 2 elements"

def read (t : PayloadType) (n : Node) : Reading Envelope :=
  n.readRecord "struct Envelope"
    (fun items => do
      let (id, items) ← items.field 0 title Node.readText
      let (msg, items) ← items.field 1 title t.shape.read
      items.finish
      return ⟨id, msg⟩)
    fun members closed => do ofDraft t (← readMembers (readMember t) {} members closed)

/-- An envelope needs an id that is not blank. -/
def decode (t : PayloadType) (body : Bytes) : Except EnvelopeError Envelope :=
  match (Document.ofBytes body).read (read t) with
  | .error issue => .error (.malformed issue.message)
  | .ok e => if Text.allBlank e.id then .error .blankId else .ok e

end Envelope
end Courier
