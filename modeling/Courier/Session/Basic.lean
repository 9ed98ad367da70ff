import Courier.Declaration
import Courier.Delivery
import Courier.Publication

/-! Sessions: dispatchers, a publisher and a broker in one place, and the deliveries under way. Time
is in milliseconds. -/
namespace Courier

/-- A dispatcher registers contracts. Several may share a ledger, which is given by its number. -/
structure Dispatcher where
  ledger : Nat
  registry : Registry := {}

/-- What consumes the stream with the same number. -/
structure Subscription where
  consumer : Consumer
  ledger : Nat

/-- What a delivery waits for: its handler, who is going to give this answer, or the end of its
delay. -/
inductive Stage where
  | handling (id : String) (answer : Answer)
  | delayed
  deriving DecidableEq

/-- A delivery that waits. Deliveries are numbered as they are handed over. -/
structure Task where
  serial : Nat
  stream : Nat
  delivery : Delivery
  due : Nat
  stage : Stage
  deriving DecidableEq

/-- A note with its time and, if it is about a delivery, the delivery's number and tag. -/
structure Entry where
  time : Nat
  delivery : Option (Nat × Nat)
  note : Note

structure Session where
  env : String
  now : Nat := 0
  broker : Broker := {}
  ledgers : List Ledger := []
  dispatchers : List Dispatcher := []
  subscriptions : List Subscription := []
  tasks : List Task := []
  handled : Tally := []
  persisted : Keyed Nat := []
  drawn : Nat := 0
  journal : List Entry := []

/-- The timer of the runtime, by which every wait of a session is measured, takes all that is
further ahead for one far future, thirty years of 365 days from now. So a wait that is to be longer
ends there, be it of a handler, for a delay or to persist a message. -/
def longestWait : Nat := 30 * 365 * 24 * 60 * 60 * 1000

/-- A handler that does not report is not told about persisting and outcomes. -/
def Handler.hears (h : Handler) : Event → Bool
  | .persisted _ _ _ | .outcome _ _ => h.reports
  | _ => true

namespace Session

/-- The messages in all ledgers. -/
def entries (s : Session) : Nat := s.ledgers.foldl (fun n l => n + l.size) 0

def ledger (s : Session) (number : Nat) : Ledger := s.ledgers.getD number {}

/-- The desk that has this ledger. -/
def desk (s : Session) (ledger : Nat) : Desk :=
  let own := s.ledger ledger
  ⟨s.broker, own, s.entries - own.size, s.handled, s.persisted, s.drawn, []⟩

/-- Works at the desk that has this ledger, and enters the notes into the journal. -/
def act {α : Type} (s : Session) (ledger : Nat) (delivery : Option (Nat × Nat)) (h : Handler)
    (work : StateM Desk α) : α × Session :=
  let (a, d) := work.run (s.desk ledger)
  (a, { s with
    broker := d.broker
    ledgers := s.ledgers.set ledger d.ledger
    handled := d.handled
    persisted := d.persisted
    drawn := d.drawn
    journal := s.journal ++
      (d.notes.filter fun n => h.hears n.event).map fun n => ⟨s.now, delivery, n⟩ })

/-- Writes a log line that is about no delivery. -/
def log (s : Session) (level : LogLevel) (message : String) (fields : List (String × LogValue)) :
    Session :=
  { s with journal := s.journal ++ [⟨s.now, none, ⟨.log level message fields, s.entries⟩⟩] }

/-- When a wait that begins now is over. -/
def waitEnd (s : Session) (ms : Nat) : Nat := s.now + min ms longestWait

def enqueue (s : Session) (t : Task) : Session := { s with tasks := s.tasks ++ [t] }

def dequeue (s : Session) (t : Task) : Session :=
  { s with tasks := s.tasks.filter (·.serial ≠ t.serial) }

/-- Works on a delivery of a subscription. -/
def attend {α : Type} (s : Session) (sub : Subscription) (serial tag : Nat) (work : StateM Desk α) :
    α × Session :=
  s.act sub.ledger (some (serial, tag)) sub.consumer.contract.handler work

/-- Gives the message of a delivery back. -/
def giveBack (s : Session) (sub : Subscription) (t : Task) : Session :=
  (s.attend sub t.serial t.delivery.tag (Consumer.giveBack t.delivery)).2

/-- Lets a delivery wait for the end of its delay. -/
def delay (s : Session) (sub : Subscription) (t : Task) : Session :=
  s.enqueue { t with due := s.waitEnd sub.consumer.contract.retryInterval, stage := .delayed }

/-- Does what a waiting delivery has waited for. A delay of no length is over at once. -/
def proceed (s : Session) (t : Task) : Session :=
  match s.subscriptions[t.stream]? with
  | none => s
  | some sub =>
    match t.stage with
    | .delayed => s.giveBack sub t
    | .handling id answer =>
      let (resolution, s) :=
        s.attend sub t.serial t.delivery.tag (sub.consumer.conclude t.delivery id answer)
      if resolution ≠ .requeued then s
      else if sub.consumer.contract.retryInterval = 0 then s.giveBack sub t
      else s.delay sub t

/-- Starts to work on the delivery handed over last. If its handler has a turn, gives the time this
takes and the delivery that waits for it. -/
def accept (s : Session) (sub : Subscription) (stream : Nat) (d : Delivery) :
    Option (Nat × Task) × Session :=
  let serial := s.broker.handedOver
  match s.attend sub serial d.tag (sub.consumer.accept d) with
  | (none, s) => (none, s)
  | (some (id, turn), s) =>
    (some (turn.wait, ⟨serial, stream, d, s.waitEnd turn.wait, .handling id turn.answer⟩), s)

/-- Hands a message to a stream and gives its tag; the delivery goes on until it has to wait. -/
def handOver (s : Session) (stream : Nat) (message : Message) (tag : Option Nat) : Nat × Session :=
  let (tag, broker) := s.broker.handOver stream message tag
  let s := { s with broker }
  match s.subscriptions[stream]? with
  | none => (tag, s)
  | some sub =>
    match s.accept sub stream ⟨tag, message⟩ with
    | (none, s) => (tag, s)
    | (some (wait, t), s) => (tag, if wait = 0 then s.proceed t else s.enqueue t)

end Session
end Courier
