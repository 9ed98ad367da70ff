import Courier.Contract
import Courier.Desk
import Courier.Envelope

/-! Resolving a delivery. It is accepted, which ends in a handling that may take a while; the answer
concludes it, or leads to a delay after which the message is given back to the broker. -/
namespace Courier

structure Delivery where
  tag : Nat
  message : Message
  deriving DecidableEq

/-- One who consumes a queue on behalf of a contract. `label` names the contract. -/
structure Consumer where
  label : String
  contract : Contract
  queue : String

namespace Consumer
open Desk

def resolve (r : Resolution) : StateM Desk Unit := note (.resolved r)

def markFailed (reason : String) : StateM Desk Unit := note (.spanStatus (.error reason))

/-- A request about the delivery failed. -/
def markBroken (e : BrokerError) (tag : Nat) (message status : String) : StateM Desk Unit := do
  log .error message [("error", .text e.message), ("delivery_tag", .number tag)]
  markFailed status

/-- Acknowledges the delivery, unless the broker did so by itself. -/
def acknowledge (k : Consumer) (d : Delivery) : StateM Desk Unit := do
  if !k.contract.autoAck then
    match ← call (.ack d.tag false) with
    | .ok () => return ()
    | .error e => markBroken e d.tag "error whiling ack msg" "error to ack msg"

/-- Drops a delivery whose body is no envelope. The handler is told before that: its code is waited
for, and is taken to return at once. -/
def poison (k : Consumer) (d : Delivery) (e : EnvelopeError) : StateM Desk Unit := do
  log .error "removing poison message from queue" [("error", .text e.message),
    ("queue", .text k.queue), ("body", .text (Bytes.lossyText d.message.body))]
  markFailed e.message
  note (.outcome "" (some e.message))
  k.acknowledge d
  resolve .poisoned

/-- Opens the span of a delivery and starts to handle its payload: gives the id of the message and
the handler's turn, if the body is an envelope. -/
def accept (k : Consumer) (d : Delivery) : StateM Desk (Option (String × Turn)) := do
  note (.spanOpened k.queue d.message.headers)
  match Envelope.decode k.contract.payloadType d.message.body with
  | .error e =>
    k.poison d e
    return none
  | .ok e =>
    let attempt ← startAttempt k.label e.payload
    note (.handled k.contract.payloadType e.payload attempt)
    return some (e.id, k.contract.handler.handle e.payload attempt)

/-- Decides what becomes of a message after a failure: it is lost if the broker dropped it already,
dropped if it was sent back often enough, and otherwise to be sent back after a delay. -/
def retry (k : Consumer) (d : Delivery) (id reason : String) : StateM Desk Resolution := do
  let facts := [("error", .text reason), ("message_id", .text id), ("queue", .text k.queue)]
  if k.contract.autoAck then
    log .warn "failure on auto-ack queue, message cannot be requeued" facts
    resolve .lost
    return .lost
  let attempts := (← get).ledger.get id
  if k.contract.maxRetry ≤ attempts then
    log .error "too many attempts, dropping message"
      (facts ++ [("retries", .number attempts.toNat)])
    updateLedger (·.remove id)
    k.acknowledge d
    resolve .exhausted
    return .exhausted
  updateLedger (·.increment id)
  log .warn "error whiling handling msg, requeuing for latter"
    (facts ++ [("retry", .number ((← get).ledger.get id).toNat),
      ("delay_ms", .number k.contract.retryInterval)])
  return .requeued

/-- Acts on the handler's answer and gives the resolution it leads to. That of a message to be sent
back is noted only when it has been. The handler is told the outcome before the ledger is changed
and the broker is asked: its code is waited for, and is taken to return at once. -/
def conclude (k : Consumer) (d : Delivery) (id : String) (answer : Answer) :
    StateM Desk Resolution := do
  match answer.result with
  | .ok () =>
    note (.outcome id none)
    updateLedger (·.remove id)
    k.acknowledge d
    note (.spanStatus .ok)
    resolve .acked
    return .acked
  | .error (.malformed reason) =>
    log .error "removing malformed message from queue" [("error", .text reason),
      ("message_id", .text id), ("queue", .text k.queue),
      ("body", .text (Bytes.lossyText d.message.body))]
    markFailed reason
    note (.outcome id (some reason))
    updateLedger (·.remove id)
    k.acknowledge d
    resolve .poisoned
    return .poisoned
  | .error (.failed reason) =>
    markFailed reason
    note (.outcome id (some reason))
    k.retry d id reason

/-- Gives the message back to the broker once its delay is over. -/
def giveBack (d : Delivery) : StateM Desk Unit := do
  match ← call (.nack d.tag false true) with
  | .ok () => resolve .requeued
  | .error e =>
    markBroken e d.tag "error whiling requeuing" "error to requeuing msg"
    resolve .requeued

end Consumer
end Courier
