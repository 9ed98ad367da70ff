import Courier.Error
import Courier.Text.Blank

/-! Exchanges. -/
namespace Courier

inductive ExchangeKind where
  | default
  | direct
  | fanout
  | topic
  | headers
  deriving DecidableEq, Inhabited

/-- The name of a kind in queue names and messages. -/
def ExchangeKind.name : ExchangeKind → String
  | .default => "default"
  | .direct => "direct"
  | .fanout => "fanout"
  | .topic => "topic"
  | .headers => "headers"

/-- Only a fanout, topic or headers exchange delivers a message that has no routing key. -/
def ExchangeKind.broadcasts : ExchangeKind → Bool
  | .default | .direct => false
  | .fanout | .topic | .headers => true

/-- An exchange accepts payloads with one type tag only. -/
structure Exchange where
  name : String
  kind : ExchangeKind
  payloadTag : String
  durable : Bool
  autoDelete : Bool
  deriving DecidableEq

namespace Exchange

/-- The type tag of plain text, which an exchange carries unless told otherwise. -/
def textTag : String := "alloc::string::String"

/-- A transient direct exchange. -/
def named (name : String) : Exchange := ⟨name, .direct, textTag, false, false⟩

/-- The default exchange of a broker, which is always there. -/
def unnamed : Exchange := ⟨"", .default, textTag, true, false⟩

def isDefault (x : Exchange) : Bool := x.kind == .default

/-- The default exchange and no other has a blank name. -/
def check (x : Exchange) : Except ContractFault Unit :=
  if x.isDefault then
    if Text.allBlank x.name then .ok () else .error (.namedDefault x.name)
  else if Text.allBlank x.name then .error (.unnamed x.kind.name)
  else .ok ()

end Exchange

/-- The kinds that can be declared on a broker. -/
inductive DeclaredKind where
  | direct
  | fanout
  | topic
  | headers
  deriving DecidableEq

def DeclaredKind.name : DeclaredKind → String
  | .direct => "direct"
  | .fanout => "fanout"
  | .topic => "topic"
  | .headers => "headers"

def ExchangeKind.declared : ExchangeKind → Except BrokerError DeclaredKind
  | .direct => .ok .direct
  | .fanout => .ok .fanout
  | .topic => .ok .topic
  | .headers => .ok .headers
  | .default => .error (.declareExchange "the default exchange cannot be declared")

end Courier
