import Courier.Exchange
import Courier.Queue
import Courier.Text.Bytes
import Courier.TraceContext

/-! What is asked of a broker. -/
namespace Courier

inductive Rpc where
  | declareExchange
  | declareQueue
  | bindQueue
  | publish
  | waitForConfirms
  | consume
  | ack
  | nack
  deriving DecidableEq

/-- A request with its arguments. Timeouts are in milliseconds. -/
inductive Request where
  | declareExchange (exchange : Exchange)
  | declareQueue (queue : Queue)
  | bindQueue (binding : Binding)
  | publish (exchange key : String) (headers : Headers) (body : Bytes)
  | waitForConfirms (timeout : Nat)
  | consume (queue consumerTag : String) (bufferSize : UInt16) (autoAck : Bool)
  | ack (tag : Nat) (multiple : Bool)
  | nack (tag : Nat) (multiple requeue : Bool)
  deriving DecidableEq

def Request.rpc : Request → Rpc
  | .declareExchange _ => .declareExchange
  | .declareQueue _ => .declareQueue
  | .bindQueue _ => .bindQueue
  | .publish _ _ _ _ => .publish
  | .waitForConfirms _ => .waitForConfirms
  | .consume _ _ _ _ => .consume
  | .ack _ _ => .ack
  | .nack _ _ _ => .nack

end Courier
