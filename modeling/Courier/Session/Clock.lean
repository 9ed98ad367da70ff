import Courier.Session.Basic

/-! The passing of time in a session. -/
namespace Courier.Session

def nextDue? (s : Session) : Option Nat := (s.tasks.map Task.due).min?

/-- Takes a message from those that were returned. -/
def takeReturned (s : Session) (p : Parcel) : Session :=
  { s with broker.returned := s.broker.returned.erase p }

/-- Hands a returned message over again, if its stream is still open. -/
def handBack (s : Session) (p : Parcel) : Session :=
  let s := s.takeReturned p
  if s.broker.isOpen p.stream then (s.handOver p.stream p.message none).2 else s

/-- Hands all returned messages over again, in the order of their old tags. What comes back of them
meanwhile waits for the next round. -/
def redeliver (s : Session) : Session := (Parcel.sortByTag s.broker.returned).foldl handBack s

/-- What happens next, but not after `horizon`: a delivery that is due proceeds, those first that
have waited first; then the returned messages are handed over; then time passes. -/
def next? (horizon : Option Nat) (s : Session) : Option Session :=
  match s.tasks.find? (·.due ≤ s.now) with
  | some t => some ((s.dequeue t).proceed t)
  | none =>
    if !s.broker.returned.isEmpty then some s.redeliver
    else match s.nextDue? with
      | none => none
      | some due => if horizon.all (due ≤ ·) then some { s with now := due } else none

/-- At most `fuel` of the next things. -/
def runFor (horizon : Option Nat) : Nat → Session → Session
  | 0, s => s
  | fuel + 1, s => match s.next? horizon with
    | none => s
    | some s => runFor horizon fuel s

/-- The highest number of retries that a subscription allows. -/
def maxRetry (s : Session) : Nat :=
  (s.subscriptions.map fun sub => sub.consumer.contract.maxRetry.toNat).foldl max 0

/-- A bound on what can happen without anything from outside: each message under way is handed over
no more than once for each retry and once more, and each time it proceeds twice at most. -/
def runBound (s : Session) : Nat :=
  9 * (s.maxRetry + 1) * (s.tasks.length + s.broker.returned.length) + 1

/-- Lets everything happen up to `horizon`, or without one until no delivery waits. -/
def run (horizon : Option Nat) (s : Session) : Session := runFor horizon s.runBound s

/-- Lets everything happen that can at this moment. -/
def runNow (s : Session) : Session := s.run (some s.now)

/-- Lets `ms` milliseconds pass. -/
def advance (s : Session) (ms : Nat) : Session :=
  { s.run (some (s.now + ms)) with now := s.now + ms }

def settle (s : Session) : Session := s.run none

end Courier.Session
