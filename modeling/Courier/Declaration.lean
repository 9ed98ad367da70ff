import Courier.Contract
import Courier.Desk
import Courier.Registry

/-! Declaring a contract's exchange, queue and binding, and subscribing to the queue. -/
namespace Courier.Contract
open Desk

abbrev Declaring := ExceptT TopologyError (StateM Desk)

/-- Validates the contract, with a warning if its queue is durable in vain. -/
def inspect (c : Contract) : Declaring Unit :=
  match c.validate with
  | .error fault => throw fault.error
  | .ok () => do
    if c.durableInVain then
      log .warn "exclusive queue declared durable, it is still deleted when its connection closes"
        [("queue", .text c.queueName)]

/-- The exchange must carry the payloads that the contract handles. -/
def matchPayload (c : Contract) : Declaring Unit := do
  if c.exchange.payloadTag ≠ c.payloadType.tag then
    log .error "exchange message type mismatch" [("exchange", .text c.exchange.name),
      ("expected", .text c.exchange.payloadTag), ("actual", .text c.payloadType.tag)]
    throw (.typeMismatch c.exchange.payloadTag c.payloadType.tag)

/-- Declares exchange, queue and binding, and gives the queue's name. The default exchange exists
already, and every queue is bound to it by name. -/
def declare (c : Contract) (env : String) : Declaring String := do
  inspect c
  if !c.exchange.isDefault then require .broker (.declareExchange c.exchange)
  matchPayload c
  let name := c.address env
  require .broker (.declareQueue ⟨name, c.durable, c.exclusive, false⟩)
  if !c.exchange.isDefault then require .broker (.bindQueue ⟨name, c.exchange.name, ""⟩)
  log .info "queue declared" [("queue", .text name), ("exchange", .text c.exchange.name),
    ("kind", .text c.exchange.kind.name), ("durable", .flag c.durable),
    ("exclusive", .flag c.exclusive)]
  return name

def subscribe (c : Contract) (env : String) : Declaring Unit := do
  let _ ← c.declare env
  require .broker (.consume (c.address env) (c.address env) c.bufferSize c.autoAck)

/-- Claims the contract's address and subscribes to its queue. The claim is given up again if the
subscription fails. -/
def register (c : Contract) (env : String) (registry : Registry) :
    StateM Desk (Except TopologyError Unit × Registry) := do
  let address := c.address env
  match registry.register address c.payloadType.tag with
  | .error e => return (.error e, registry)
  | .ok claimed =>
    match ← (c.subscribe env).run with
    | .error e => return (.error e, claimed.release address)
    | .ok () =>
      log .info "consumer registered" [("queue", .text address)]
      return (.ok (), claimed)

end Courier.Contract
