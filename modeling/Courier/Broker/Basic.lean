import Courier.Broker.Topology
import Courier.Plan

/-! A broker in memory: it fails as planned, hands messages to its streams, and takes back those
that are returned to it. -/
namespace Courier

structure Message where
  headers : Headers
  body : Bytes
  deriving DecidableEq

/-- The messages of one subscription. -/
structure Stream where
  queue : String
  isOpen : Bool

/-- A message handed to a stream under a tag and not resolved yet. -/
structure Parcel where
  tag : Nat
  stream : Nat
  message : Message
  deriving DecidableEq

/-- Puts a parcel behind those whose tags are not higher. -/
def Parcel.insertByTag (p : Parcel) : List Parcel → List Parcel
  | [] => [p]
  | q :: qs => if q.tag ≤ p.tag then q :: p.insertByTag qs else p :: q :: qs

/-- Parcels in the order of their tags; those with one tag stay in their order. -/
def Parcel.sortByTag (ps : List Parcel) : List Parcel :=
  ps.foldl (fun sorted p => p.insertByTag sorted) []

/-- A message that was published. -/
structure Posting where
  exchange : String
  key : String
  message : Message

/-- `confirm`: publishing is confirmed. `redelivers`: returned messages come again. `routes`:
published messages reach the queues. -/
structure Broker where
  confirm : Bool := false
  redelivers : Bool := false
  routes : Bool := false
  faults : Plan Rpc BrokerError := []
  topology : Topology := {}
  streams : List Stream := []
  handedOver : Nat := 0
  inFlight : List Parcel := []
  returned : List Parcel := []
  postings : List Posting := []

namespace Broker

/-- Forgets what is in flight under a tag. -/
def settled (b : Broker) (tag : Nat) : Broker :=
  { b with inFlight := b.inFlight.filter (·.tag ≠ tag) }

/-- Takes back what is in flight under a tag, to hand it over again if the broker does that. -/
def takeBack (b : Broker) (tag : Nat) (requeue : Bool) : Broker :=
  match b.inFlight.find? (·.tag = tag) with
  | none => b
  | some parcel =>
    let b := b.settled tag
    if requeue && b.redelivers then { b with returned := b.returned ++ [parcel] } else b

/-- The broker after a request has succeeded. -/
def after (b : Broker) (r : Request) : Broker :=
  match r with
  | .consume queue _ _ _ => { b with streams := b.streams ++ [⟨queue, true⟩] }
  | .publish exchange key headers body =>
    if b.routes then { b with postings := b.postings ++ [⟨exchange, key, ⟨headers, body⟩⟩] } else b
  | .ack tag _ => b.settled tag
  | .nack tag _ requeue => b.takeBack tag requeue
  | r => { b with topology := b.topology.after r }

/-- Makes a request. -/
def call (b : Broker) (r : Request) : Except BrokerError Unit × Broker :=
  let (fault, faults) := b.faults.take r.rpc
  let b := { b with faults }
  match fault with
  | some error => (.error error, b)
  | none => (.ok (), b.after r)

def isOpen (b : Broker) (stream : Nat) : Bool := (b.streams[stream]?.map (·.isOpen)).getD false

def close (b : Broker) (stream : Nat) : Broker :=
  { b with streams := b.streams.modify stream ({ · with isOpen := false }) }

/-- The first open stream of a queue. -/
def streamOf? (b : Broker) (queue : String) : Option Nat :=
  b.streams.findIdx? fun s => s.isOpen && s.queue == queue

/-- The streams that a posting goes to: that of the queue named by its key, or without a key those
of all queues bound to its exchange. -/
def destinations (b : Broker) (p : Posting) : List Nat :=
  if p.key.isEmpty then (b.topology.boundTo p.exchange).filterMap b.streamOf?
  else (b.streamOf? p.key).toList

/-- Hands a message to a stream. Its tag counts the messages handed over, unless one is given. -/
def handOver (b : Broker) (stream : Nat) (message : Message) (tag : Option Nat) : Nat × Broker :=
  let count := b.handedOver + 1
  let tag := tag.getD count
  (tag, { b with
    handedOver := count
    inFlight := ⟨tag, stream, message⟩ :: b.inFlight.filter (·.tag ≠ tag) })

end Broker
end Courier
