import Courier.Session.Clock

/-! The commands of a session. -/
namespace Courier

inductive LedgerCall where
  | get
  | increment (times : Nat)
  | remove

/-- A contract is given with the label under which its handler is known. -/
inductive Command where
  | address (contract : Contract)
  | environment (dispatcher : Nat)
  | validate (contract : Contract)
  | declare (contract : Contract)
  | register (label : String) (contract : Contract) (dispatcher : Nat)
  | publish (label : String) (contract : Contract) (broadcast : Bool)
      (context : List (String × String)) (payload : Payload)
  | deliver (stream : Nat) (messages : List (Message × Option Nat))
  | streamError (stream : Nat) (error : BrokerError)
  | close (stream : Nat)
  | advance (ms : Nat)
  | settle
  | ledger (dispatcher : Nat) (call : LedgerCall) (id : String)

/-- Of the messages to be handed over, those that find no open stream get no tag. -/
inductive Reply where
  | done
  | texts (env text : String)
  | declared (result : Except TopologyError String)
  | validated (result : Except TopologyError Unit)
  | registered (result : Except TopologyError Nat)
  | published (result : Except PublishError String)
  | handed (tags : List (Option Nat))
  | count (n : Nat)

namespace Session

/-- The number of the ledger that a dispatcher uses. -/
def ledgerOf (s : Session) (dispatcher : Nat) : Nat :=
  (s.dispatchers[dispatcher]?.map (·.ledger)).getD 0

/-- Works at the first dispatcher's desk on behalf of a contract. -/
def work {α : Type} (s : Session) (c : Contract) (w : StateM Desk α) : α × Session :=
  s.act (s.ledgerOf 0) none c.handler w

/-- Hands published messages to the streams they are routed to. -/
def route (s : Session) : Session :=
  s.broker.postings.foldl
    (fun s p => (s.broker.destinations p).foldl
      (fun s stream => (s.handOver stream p.message none).2) s)
    { s with broker.postings := [] }

def register (s : Session) (label : String) (c : Contract) (dispatcher : Nat) :
    Except TopologyError Nat × Session :=
  match s.dispatchers[dispatcher]? with
  | none => (.error (.broker .connection), s)
  | some d =>
    let ((result, registry), s) := s.act d.ledger none c.handler (c.register s.env d.registry)
    let s := { s with dispatchers := s.dispatchers.set dispatcher { d with registry } }
    match result with
    | .error e => (.error e, s)
    | .ok () =>
      (.ok s.subscriptions.length,
        { s with subscriptions := s.subscriptions ++ [⟨⟨label, c, c.address s.env⟩, d.ledger⟩] })

/-- Publishes a payload to the contract's queue or as a broadcast. Time passes while the handler
persists it. -/
def publish (s : Session) (label : String) (c : Contract) (broadcast : Bool)
    (context : List (String × String)) (payload : Payload) :
    Except PublishError String × Session :=
  let (key, s) := s.work c (c.routingKey s.env broadcast).run
  match key with
  | .error e => (.error e, s)
  | .ok key =>
    let ((e, attempt), s) := s.work c (c.enclose label payload)
    let s := if attempt.wait = 0 then s else s.advance (min attempt.wait longestWait)
    let (result, s) := s.work c (c.send key context e attempt.result).run
    (result, s.route)

/-- Hands messages to a stream, if it is open. -/
def deliver (s : Session) (stream : Nat) :
    List (Message × Option Nat) → List (Option Nat) × Session
  | [] => ([], s)
  | (message, tag) :: rest =>
    let (handed, s) :=
      if s.broker.isOpen stream then
        let (tag, s) := s.handOver stream message tag
        (some tag, s)
      else (none, s)
    let (tags, s) := s.deliver stream rest
    (handed :: tags, s)

/-- A stream that yields an error goes on. -/
def streamError (s : Session) (stream : Nat) (e : BrokerError) : Session :=
  if s.broker.isOpen stream then s.log .error "errors consume msg" [("error", .text e.message)]
  else s

/-- A closed stream yields nothing any more; the deliveries under way are not affected. -/
def close (s : Session) (stream : Nat) : Session :=
  match s.subscriptions[stream]? with
  | none => s
  | some sub =>
    if s.broker.isOpen stream then
      { s with broker := s.broker.close stream }.log .info "consumer stopped"
        [("queue", .text sub.consumer.queue)]
    else s

def callLedger (s : Session) (number : Nat) (id : String) : LedgerCall → Reply × Session
  | .get => (.count ((s.ledger number).get id).toNat, s)
  | .increment times =>
    let l := (s.ledger number).incrementTimes id times
    (.count (l.get id).toNat, { s with ledgers := s.ledgers.set number l })
  | .remove => (.done, { s with ledgers := s.ledgers.set number ((s.ledger number).remove id) })

/-- Carries out a command. -/
def perform (s : Session) : Command → Reply × Session
  | .address c => (.texts s.env (c.address s.env), s)
  | .environment _ => (.texts s.env s.env, s)
  | .validate c =>
    let (result, s) := s.work c c.inspect.run
    (.validated result, s)
  | .declare c =>
    let (result, s) := s.work c (c.declare s.env).run
    (.declared result, s)
  | .register label c dispatcher =>
    let (result, s) := s.register label c dispatcher
    (.registered result, s)
  | .publish label c broadcast context payload =>
    let (result, s) := s.publish label c broadcast context payload
    (.published result, s)
  | .deliver stream messages =>
    let (tags, s) := s.deliver stream messages
    (.handed tags, s)
  | .streamError stream e => (.done, s.streamError stream e)
  | .close stream => (.done, s.close stream)
  | .advance ms => (.done, s.advance ms)
  | .settle => (.done, s.settle)
  | .ledger dispatcher call id => s.callLedger (s.ledgerOf dispatcher) id call

/-- A command, with everything that can happen at that moment after it. The journal holds what this
command brought about. -/
def step (s : Session) (c : Command) : Reply × Session :=
  let (reply, s) := { s with journal := [] }.perform c
  (reply, s.runNow)

end Session
end Courier
