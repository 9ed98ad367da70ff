import Courier.Channel.Basic

/-! What a channel is used for. -/
namespace Courier.Channel

abbrev Operation := ExceptT BrokerError (StateM Channel)

/-- A message as a stream yields it. -/
structure Arrival where
  tag : Nat
  headers : Headers
  body : Bytes

def declareExchange (x : Exchange) : Operation Unit := do
  let kind ← x.kind.declared
  require (.declareExchange x.name)
    (.exchangeDeclare x.name kind false x.durable x.autoDelete false false)

def declareQueue (q : Queue) : Operation Unit :=
  require (.declareQueue q.name) (.queueDeclare q false false)

def bindQueue (b : Binding) : Operation Unit :=
  require (.bindQueue b.exchange b.queue) (.queueBind b false)

/-- What a publication leaves to be confirmed. -/
def confirmationOf : Option Fault → Confirmation
  | none | some .refuse | some .sendBack => .answered
  | some .silent => .awaited
  | some .closeChannel | some .closeConnection | some .hangUp => .lost

/-- A message is published once it is sent, whatever the peer makes of it. -/
def publish (exchange key : String) (headers : Headers) (body : Bytes) : Operation Unit := do
  if !(← get).isOpen then throw .publishing
  let frame : Frame := .publish exchange key false false (.ofHeaders headers) body
  let fault ← (send frame : StateM Channel _)
  modify fun c => { c with
    confirmation := if c.confirming then some (confirmationOf fault) else none
    returned := if fault = some .sendBack then c.returned + 1 else c.returned }
  if fault.any Fault.isFatal then modify down

/-- Gives the number of the messages that came back, which are then forgotten. -/
def takeReturned : StateM Channel Nat :=
  modifyGet fun c => (c.returned, { c with returned := 0 })

/-- Waits until the peer has answered for the message published last, but only once for each
message. None may have come back. -/
def waitForConfirms : Operation Unit := do
  let last := (← get).confirmation
  modify ({ · with confirmation := none })
  match last with
  | some .awaited => throw .confirmTimeout
  | some .lost => throw (.confirm transportReason)
  | some .answered | none =>
    let n ← (takeReturned : StateM Channel Nat)
    if n ≠ 0 then throw (.confirm (toString n ++ " message(s) rejected by the broker"))

/-- Opens a stream for a queue. Without a buffer size any number of messages may be under way. -/
def consume (queue tag : String) (bufferSize : UInt16) (autoAck : Bool) : Operation Unit := do
  if bufferSize ≠ 0 then require (.qos transportReason) (.qos bufferSize false)
  require (.bindConsumer queue) (.consume queue tag false autoAck false false)
  modify fun c => { c with streams := c.streams ++ [true] }

def acknowledge (tag : Nat) (multiple : Bool) : Operation Unit := require .ack (.ack tag multiple)

def reject (tag : Nat) (multiple requeue : Bool) : Operation Unit :=
  require .nack (.nack tag multiple requeue)

/-- A message of the peer arrives on a stream, if that is open. -/
def arrive (c : Channel) (stream tag : Nat) (headers : HeaderTable) (body : Bytes) :
    Option Arrival :=
  if c.isOpen ∧ c.streams[stream]? = some true then some ⟨tag, headers.headers, body⟩ else none

/-- What a stream yields when it ends: nothing, or an error. -/
abbrev Ending := Option BrokerError

/-- The peer ends one stream. -/
def endStream (stream : Nat) : StateM Channel (Option Ending) := do
  let known := stream < (← get).streams.length
  modify fun c => { c with streams := c.streams.set stream false }
  return if known then some none else none

/-- The peer takes the channel down, which a stream that was open reports. -/
def endChannel (stream : Nat) : StateM Channel (Option Ending) := do
  let c ← get
  modify down
  return c.streams[stream]?.map fun wasOpen =>
    if c.isOpen && wasOpen then some (.consumer transportReason) else none

end Courier.Channel
