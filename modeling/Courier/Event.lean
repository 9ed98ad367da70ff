import Courier.Broker.Request
import Courier.Schema

/-! What happens while contracts are declared, messages published and deliveries resolved. -/
namespace Courier

/-- How one handling of a delivery ended: acknowledged, returned for another attempt, dropped after
the last attempt, dropped because it cannot be read, or lost because the broker had dropped it. -/
inductive Resolution where
  | acked
  | requeued
  | exhausted
  | poisoned
  | lost
  deriving DecidableEq

inductive SpanStatus where
  | ok
  | error (text : String)
  deriving DecidableEq

inductive LogLevel where
  | info
  | warn
  | error
  deriving DecidableEq

inductive LogValue where
  | text (s : String)
  | number (n : Nat)
  | flag (b : Bool)
  deriving DecidableEq

/-- Payloads are given with their type. -/
inductive Event where
  | request (r : Request) (ok : Bool)
  | persisted (type : PayloadType) (id : String) (payload : Payload)
  | handled (type : PayloadType) (payload : Payload) (attempt : Nat)
  | outcome (id : String) (failure : Option String)
  | spanOpened (name : String) (headers : Headers)
  | spanStatus (status : SpanStatus)
  | resolved (r : Resolution)
  | log (level : LogLevel) (message : String) (fields : List (String × LogValue))

/-- An event, with the number of messages in all ledgers at that moment. -/
structure Note where
  event : Event
  entries : Nat

end Courier
