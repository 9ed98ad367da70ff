import Courier.BusinessDate
import Courier.Handler
import Courier.Schema
import Courier.Text.LowerCase
import Courier.Text.UpperCase

/-! Contracts: which queue a handler consumes, how, and under which name. -/
namespace Courier

/-- Intervals are in milliseconds. -/
structure Contract where
  payloadType : PayloadType
  exchange : Exchange
  moduleName : String
  queueName : String
  businessDate : String
  handler : Handler
  durable : Bool := true
  exclusive : Bool := false
  bufferSize : UInt16 := 100
  autoAck : Bool := false
  maxRetry : UInt32 := 3
  retryInterval : Nat := 1000

/-- Puts an underscore in front of each capital letter, in lower case where it has one. -/
def splitCapitals (cs : List Char) : List Char :=
  cs.flatMap fun c => if Text.isUpper c then '_' :: Text.lowerChar c else [c]

def dropUnderscore : List Char → List Char
  | '_' :: cs => cs
  | cs => cs

/-- A module or exchange name as a part of a queue name: in lower case, and without one underscore
at the start. -/
def segment (raw : String) : String :=
  String.ofList (dropUnderscore (splitCapitals (Text.lowerChars raw.toList)))

/-- The name of a queue on the broker: these parts, joined by dots. -/
def queueAddress (env moduleName queue date : String) (exchange : Exchange) : String :=
  ".".intercalate [env, segment moduleName, queue, Text.trim date,
    if exchange.isDefault then "default" else segment exchange.name, exchange.kind.name]

namespace Contract

/-- The name of the contract's queue in an environment, its address. -/
def address (c : Contract) (env : String) : String :=
  queueAddress env c.moduleName c.queueName c.businessDate c.exchange

/-- Checks what no broker can check. -/
def validate (c : Contract) : Except ContractFault Unit :=
  if Text.allBlank c.moduleName then .error .blankModule
  else if Text.allBlank c.queueName then .error .blankQueue
  else if !BusinessDate.accepts (Text.trim c.businessDate) then
    .error (.notADate (Text.trim c.businessDate))
  else c.exchange.check

/-- An exclusive queue goes away with its connection even if it is durable. -/
def durableInVain (c : Contract) : Bool := c.exclusive && c.durable

end Contract
end Courier
