import Courier.Exchange
import Courier.Keyed
import Courier.Queue
import Courier.Text.Bytes
import Courier.TraceContext

/-! What a client sends over a connection. -/
namespace Courier

/-- A value in the header table of a message. -/
inductive HeaderValue where
  | longText (b : Bytes)
  | int (n : Int)
  | flag (b : Bool)
  | void
  | table
  | bytes (b : Bytes)
  deriving DecidableEq

abbrev HeaderTable := Keyed HeaderValue

namespace HeaderTable

/-- A header is sent as a long text. -/
def ofHeaders (h : Headers) : HeaderTable := h.map fun (k, v) => (k, .longText (Bytes.ofString v))

/-- The entries that are texts; what is not well formed in them is replaced. -/
def headers (t : HeaderTable) : Headers :=
  t.filterMap fun
    | (k, .longText b) => some (k, Bytes.lossyText b)
    | _ => none

end HeaderTable

structure Properties where
  contentType : String
  deliveryMode : Nat
  headers : HeaderTable
  deriving DecidableEq

/-- A message is JSON and outlives the peer's restart. -/
def Properties.ofHeaders (h : Headers) : Properties := ⟨"application/json", 2, .ofHeaders h⟩

inductive Frame where
  | startOk (user password connectionName : String)
  | connectionOpen (vhost : String)
  | channelOpen
  | confirmSelect (nowait : Bool)
  | qos (prefetch : UInt16) (global : Bool)
  | exchangeDeclare (name : String) (kind : DeclaredKind)
      (passive durable autoDelete internal nowait : Bool)
  | queueDeclare (queue : Queue) (passive nowait : Bool)
  | queueBind (binding : Binding) (nowait : Bool)
  | consume (queue tag : String) (noLocal noAck exclusive nowait : Bool)
  | ack (tag : Nat) (multiple : Bool)
  | nack (tag : Nat) (multiple requeue : Bool)
  | publish (exchange key : String) (mandatory immediate : Bool) (properties : Properties)
      (body : Bytes)
  deriving DecidableEq

end Courier
