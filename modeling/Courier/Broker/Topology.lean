import Courier.Broker.Request

/-! The exchanges, queues and bindings of a broker. -/
namespace Courier

/-- Queues are kept under their names. -/
structure Topology where
  exchanges : List Exchange := []
  queues : Keyed Queue := []
  bindings : List Binding := []

namespace Topology

/-- Adds `a` to a list that holds nothing twice. -/
def insertNew {α : Type} [DecidableEq α] (a : α) (l : List α) : List α :=
  if a ∈ l then l else l ++ [a]

/-- The topology after a request has succeeded. -/
def after (t : Topology) : Request → Topology
  | .declareExchange x => { t with exchanges := insertNew x t.exchanges }
  | .declareQueue q => { t with queues := t.queues.put q.name q }
  | .bindQueue b => { t with bindings := insertNew b t.bindings }
  | _ => t

/-- The queues bound to an exchange, in the order of their names. -/
def boundTo (t : Topology) (exchange : String) : List String :=
  let bound := t.bindings.filter (·.exchange == exchange)
  (Keyed.ofEntries (bound.map fun b => (b.queue, ()))).map Prod.fst

end Topology
end Courier
