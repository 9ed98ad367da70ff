/-! Queues and their bindings to exchanges. -/
namespace Courier

structure Queue where
  name : String
  durable : Bool := false
  exclusive : Bool := false
  autoDelete : Bool := false
  deriving DecidableEq

structure Binding where
  queue : String
  exchange : String
  key : String := ""
  deriving DecidableEq

end Courier
