import Courier.Channel.Frame
import Courier.Plan

/-! The peer at the other end of a connection. -/
namespace Courier

/-- The occasions on which a peer acts: when it is to greet the client, and when a frame arrives. -/
inductive Occasion where
  | greeting
  | startOk
  | connectionOpen
  | channelOpen
  | confirmSelect
  | qos
  | exchangeDeclare
  | queueDeclare
  | queueBind
  | consume
  | ack
  | nack
  | publish
  deriving DecidableEq

def Frame.occasion : Frame → Occasion
  | .startOk _ _ _ => .startOk
  | .connectionOpen _ => .connectionOpen
  | .channelOpen => .channelOpen
  | .confirmSelect _ => .confirmSelect
  | .qos _ _ => .qos
  | .exchangeDeclare _ _ _ _ _ _ _ => .exchangeDeclare
  | .queueDeclare _ _ _ => .queueDeclare
  | .queueBind _ _ => .queueBind
  | .consume _ _ _ _ _ _ => .consume
  | .ack _ _ => .ack
  | .nack _ _ _ => .nack
  | .publish _ _ _ _ _ _ => .publish

/-- What a peer does instead of what it is asked: it ends the channel, or the connection in one of
two ways, or does nothing at all, or refuses a message, or sends it back. -/
inductive Fault where
  | closeChannel
  | closeConnection
  | hangUp
  | silent
  | refuse
  | sendBack
  deriving DecidableEq

/-- After such a fault the channel is of no use any more. -/
def Fault.isFatal : Fault → Bool
  | .closeChannel | .closeConnection | .hangUp => true
  | .silent | .refuse | .sendBack => false

structure Peer where
  reachable : Bool
  plan : Plan Occasion Fault := []

end Courier
