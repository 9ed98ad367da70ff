import Courier.Contract
import Courier.Text.Quoted

/-! The description of a contract for the people who run it. -/
namespace Courier.Description

def flag (b : Bool) : String := if b then "true" else "false"

def kind : ExchangeKind → String
  | .default => "Default"
  | .direct => "Direct"
  | .fanout => "Fanout"
  | .topic => "Topic"
  | .headers => "Headers"

/-- Three digits of a fraction without the zeros at its end. -/
def thousandths (n : Nat) : String :=
  let digits := (Nat.toDigits 10 (1000 + n)).drop 1
  String.ofList (digits.reverse.dropWhile (· = '0')).reverse

/-- A duration in seconds from one second on, in milliseconds below; nothing counts nanoseconds. -/
def duration (ms : Nat) : String :=
  if ms = 0 then "0ns"
  else if ms < 1000 then toString ms ++ "ms"
  else if ms % 1000 = 0 then toString (ms / 1000) ++ "s"
  else toString (ms / 1000) ++ "." ++ thousandths (ms % 1000) ++ "s"

/-- The named fields of a structure between braces; `rest` stands at the end. -/
def fields (name : String) (parts : List (String × String)) (rest : String) : String :=
  name ++ " \x7b " ++ ", ".intercalate (parts.map fun (k, v) => k ++ ": " ++ v) ++ rest ++ " \x7d"

def exchange (x : Exchange) : String :=
  fields "ExchangeDefinition" [("name", Text.quote x.name), ("kind", kind x.kind),
    ("payload_type", Text.quote x.payloadTag), ("durable", flag x.durable),
    ("delete", flag x.autoDelete)] ""

/-- All of a contract but its handler. -/
def contract (c : Contract) : String :=
  fields "HandlerContract" [("payload_type", Text.quote c.payloadType.tag),
    ("exchange", exchange c.exchange), ("module", Text.quote c.moduleName),
    ("queue_name", Text.quote c.queueName), ("business_date", Text.quote c.businessDate),
    ("durable", flag c.durable), ("exclusive", flag c.exclusive),
    ("max_internal_queue_size", toString c.bufferSize.toNat), ("auto_ack", flag c.autoAck),
    ("max_retry", toString c.maxRetry.toNat), ("retry_interval", duration c.retryInterval)] ", .."

end Courier.Description
