import Courier.Error
import Courier.Json.Value

/-! What a contract's handler does with its messages. -/
namespace Courier

/-- How one handling ends. A crash may leave a text. -/
inductive Answer where
  | done
  | failed (reason : String)
  | malformed (reason : String)
  | crashed (text : Option String)
  deriving DecidableEq

/-- A crash counts as a failure. -/
def Answer.result : Answer → Except HandlerError Unit
  | .done => .ok ()
  | .failed reason => .error (.failed reason)
  | .malformed reason => .error (.malformed reason)
  | .crashed (some text) => .error (.failed ("handler panicked: " ++ text))
  | .crashed none => .error (.failed "handler panicked")

/-- One answer of a handler: it takes `wait` milliseconds. -/
structure Turn where
  wait : Nat
  answer : Answer

/-- One attempt to persist a message: it takes `wait` milliseconds. Nothing here catches a crash of
the publisher's own code, so an attempt either succeeds or gives an error. -/
structure Persisting where
  wait : Nat
  result : Except HandlerError Unit

/-- A handler answers by payload and by how often it has seen that payload, the present time
included. `persist` gives the attempts to persist a message, counted from zero.
A handler that does not report leaves persisting and outcomes to nobody. One that reports is told
outcomes by a call that consumers wait for: its code might take a while or crash, but here it is
taken to return at once. -/
structure Handler where
  handle : Json.Value → Nat → Turn
  persist : Nat → Persisting
  reports : Bool

end Courier
