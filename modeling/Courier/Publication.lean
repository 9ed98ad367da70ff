import Courier.Contract
import Courier.Desk
import Courier.Envelope

/-! Publishing payloads, to the queue of a contract or to all queues bound to its exchange. -/
namespace Courier.Contract
open Desk

abbrev Publishing := ExceptT PublishError (StateM Desk)

/-- How long a publisher waits for the broker to confirm a message. -/
def confirmTimeout : Nat := 5000

/-- The routing key of a payload that goes to the contract's queue or, as a `broadcast`, to all
queues bound to its exchange. Only some kinds of exchange deliver a message without a routing
key. -/
def routingKey (c : Contract) (env : String) (broadcast : Bool) : Publishing String := do
  if !broadcast then return c.address env
  else if c.exchange.kind.broadcasts then return ""
  else
    log .error "exchange kind cannot broadcast" [("exchange", .text c.exchange.name),
      ("kind", .text c.exchange.kind.name)]
    throw (.unsupportedExchangeKind c.exchange.kind.name)

/-- Puts a payload under a new id and lets the handler persist it. -/
def enclose (c : Contract) (label : String) (payload : Payload) :
    StateM Desk (Envelope × Persisting) := do
  let e : Envelope := ⟨← drawId, payload⟩
  let n ← startPersist label
  note (.persisted c.payloadType e.id e.payload)
  return (e, c.handler.persist n)

/-- A failure to persist a message is no reason not to publish it. -/
def reviewPersisting (c : Contract) (e : Envelope) (key : String)
    (persisted : Except HandlerError Unit) : Publishing Unit :=
  match persisted with
  | .ok () => return ()
  | .error error =>
    log .warn "failure to persist message before publishing" [("error", .text error.message),
      ("message_id", .text e.id), ("exchange", .text c.exchange.name), ("routing_key", .text key)]

/-- The body of an envelope that the exchange accepts. -/
def body (c : Contract) (e : Envelope) : Publishing Bytes := do
  if c.exchange.payloadTag ≠ c.payloadType.tag then
    log .error "message type mismatch" [("exchange", .text c.exchange.name),
      ("expected", .text c.exchange.payloadTag), ("actual", .text c.payloadType.tag)]
    throw (.typeMismatch c.exchange.payloadTag c.payloadType.tag)
  match e.encode c.payloadType with
  | .ok bytes => return bytes
  | .error reason =>
    log .error "failure to serialize envelope" [("error", .text reason)]
    throw (.serialize reason)

/-- In confirm mode, waits until the broker has confirmed what was published. -/
def confirm (id key : String) : Publishing Unit := do
  if (← get).broker.confirm then
    match ← (call (.waitForConfirms confirmTimeout) : StateM Desk _) with
    | .ok () => return ()
    | .error error =>
      log .error "message was not confirmed" [("error", .text error.message),
        ("message_id", .text id), ("routing_key", .text key)]
      throw (.notConfirmed error.message)

/-- Publishes an envelope that has been persisted with this result; the headers carry the trace
context `context`. -/
def send (c : Contract) (key : String) (context : List (String × String)) (e : Envelope)
    (persisted : Except HandlerError Unit) : Publishing String := do
  c.reviewPersisting e key persisted
  let body ← c.body e
  require .broker (.publish c.exchange.name key (TraceContext.inject context) body)
  confirm e.id key
  return e.id

end Courier.Contract
