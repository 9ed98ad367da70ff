import Courier.Channel.Peer
import Courier.Error

/-! A channel to a peer. -/
namespace Courier

/-- What is known about the message published last: the peer has answered for it, it may still do
so, or the channel went down before. -/
inductive Confirmation where
  | answered
  | awaited
  | lost
  deriving DecidableEq

/-- `returned` counts the messages that came back, `streams` says which subscriptions are open, and
`sent` holds the frames that reached the peer. -/
structure Channel where
  peer : Peer
  isOpen : Bool := true
  confirming : Bool := false
  confirmation : Option Confirmation := none
  returned : Nat := 0
  streams : List Bool := []
  sent : List Frame := []

namespace Channel

/-- What is reported in place of the transport's own wording. -/
def transportReason : String := "*"

/-- The channel is down, and with it what was expected of it. -/
def down (c : Channel) : Channel :=
  { c with
    isOpen := false
    confirmation := c.confirmation.map fun x => if x = .awaited then .lost else x }

/-- What the peer does on an occasion. -/
def meet (o : Occasion) : StateM Channel (Option Fault) :=
  modifyGet fun c =>
    let (fault, plan) := c.peer.plan.take o
    (fault, { c with peer := { c.peer with plan } })

/-- Sends a frame, if the channel is open, and gives what the peer does on its arrival. -/
def send (f : Frame) : StateM Channel (Option Fault) := do
  modify fun c => { c with sent := c.sent ++ [f] }
  meet f.occasion

/-- Sends a request and says whether it was granted. A fatal fault takes the channel down. -/
def ask (f : Frame) : StateM Channel Bool := do
  if !(← get).isOpen then return false
  match ← send f with
  | none => return true
  | some fault =>
    if fault.isFatal then modify down
    return false

/-- Makes a request that others depend on. -/
def require (e : BrokerError) (f : Frame) : ExceptT BrokerError (StateM Channel) Unit := do
  if !(← (ask f : StateM Channel Bool)) then throw e

end Channel
end Courier
