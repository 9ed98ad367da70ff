import Courier.Broker.Basic
import Courier.Event
import Courier.Ledger
import Courier.MessageId

/-! The desk at which publishers and consumers work for one moment: the broker, the retry ledger,
the counts of what the handlers have seen, and the notes of what happens. -/
namespace Courier

/-- How often each payload was handled under a name. -/
abbrev Tally := List (String × Json.Value × Nat)

def Tally.count (name : String) (payload : Json.Value) : Tally → Nat
  | [] => 0
  | (m, p, n) :: rest => if m = name ∧ p.same payload then n else count name payload rest

def Tally.add (name : String) (payload : Json.Value) : Tally → Tally
  | [] => [(name, payload, 1)]
  | (m, p, n) :: rest =>
    if m = name ∧ p.same payload then (m, p, n + 1) :: rest else (m, p, n) :: add name payload rest

/-- `elsewhere` counts the messages in the other ledgers, `drawn` the ids that were generated. -/
structure Desk where
  broker : Broker
  ledger : Ledger
  elsewhere : Nat
  handled : Tally
  persisted : Keyed Nat
  drawn : Nat
  notes : List Note

namespace Desk

def note (e : Event) : StateM Desk Unit :=
  modify fun d => { d with notes := d.notes ++ [⟨e, d.ledger.size + d.elsewhere⟩] }

def log (level : LogLevel) (message : String) (fields : List (String × LogValue)) :
    StateM Desk Unit :=
  note (.log level message fields)

/-- Makes a request and notes how it went, as things stand before its effects. -/
def call (r : Request) : StateM Desk (Except BrokerError Unit) := do
  let (result, broker) := (← get).broker.call r
  note (.request r result.isOk)
  modify ({ · with broker })
  return result

/-- Makes a request that others depend on. -/
def require {ε : Type} (lift : BrokerError → ε) (r : Request) : ExceptT ε (StateM Desk) Unit := do
  match ← (call r : StateM Desk _) with
  | .ok () => return ()
  | .error e => throw (lift e)

def updateLedger (f : Ledger → Ledger) : StateM Desk Unit :=
  modify fun d => { d with ledger := f d.ledger }

/-- A new message id. -/
def drawId : StateM Desk String :=
  modifyGet fun d => (MessageId.ofNat d.drawn, { d with drawn := d.drawn + 1 })

/-- Which attempt at a payload starts now; it is counted. -/
def startAttempt (name : String) (payload : Json.Value) : StateM Desk Nat :=
  modifyGet fun d =>
    (d.handled.count name payload + 1, { d with handled := d.handled.add name payload })

/-- How often a message has been persisted under a name before; this time is counted. -/
def startPersist (name : String) : StateM Desk Nat :=
  modifyGet fun d =>
    let n := (d.persisted.get? name).getD 0
    (n, { d with persisted := d.persisted.put name (n + 1) })

end Desk
end Courier
