import Courier.Proofs.Delivery

/-! What can be seen of a delivery from outside: its handler is called and told how the attempt
went, requests are made, and the delivery is resolved. -/
namespace Courier

inductive Sight where
  | handled (payload : Payload)
  | told (id : String) (failure : Option String)
  | asked (r : Request) (ok : Bool)
  | resolved (r : Resolution)

/-- What is seen of an event. Logs and spans are for nobody but operators. -/
def Event.sight? : Event → Option Sight
  | .handled _ payload _ => some (.handled payload)
  | .outcome id failure => some (.told id failure)
  | .request r ok => some (.asked r ok)
  | .resolved r => some (.resolved r)
  | _ => none

/-- What a handler is told after an attempt: nothing went wrong, or what did. -/
def Answer.failure? (a : Answer) : Option String :=
  match a.result with
  | .ok () => none
  | .error (.malformed reason) => some reason
  | .error (.failed reason) => some reason

/-- A request as it is seen, if one is made. -/
def Broker.shows (b : Broker) (r : Option Request) : List Sight :=
  (b.replies r).map fun p => .asked p.1 p.2

namespace Desk

/-- What is seen of the work at the desk so far. -/
def sights (d : Desk) : List Sight := d.notes.filterMap (·.event.sight?)

section
variable (d : Desk) (e : Event) (r : Request) (l : Ledger)

@[simp] theorem noted_sights : (d.noted e).sights = d.sights ++ e.sight?.toList := by
  unfold sights noted
  rw [List.filterMap_append]
  cases h : e.sight? <;> simp [h]

@[simp] theorem called_sights :
    (d.called r).sights = d.sights ++ [.asked r (d.broker.call r).1.isOk] :=
  noted_sights d _

@[simp] theorem withLedger_sights : (d.withLedger l).sights = d.sights := rfl

end
end Desk

attribute [simp] Event.sight?

/-- A resolution is seen when it is final. That of a message to be sent back is seen only when it
has been. -/
def Resolution.seenAtOnce (r : Resolution) : List Sight :=
  if r = .requeued then [] else [.resolved r]

namespace Consumer
variable (k : Consumer) (d : Delivery) (id : String) (desk : Desk)

theorem markBroken_sights (e : BrokerError) (tag : Nat) (message status : String) :
    ((markBroken e tag message status).run desk).2.sights = desk.sights := by
  change ((desk.noted _).noted _).sights = _
  simp

@[simp] theorem acknowledged_sights :
    (k.acknowledged d desk).sights =
      desk.sights ++ desk.broker.shows (k.ackOf? d .acked) := by
  unfold acknowledged ackOf?
  cases h : k.contract.autoAck with
  | true => rw [acknowledge_autoAck k d desk h]; simp [Broker.shows]
  | false =>
    rw [acknowledge_manual k d desk h]
    split
    · simp [Broker.shows]
    · rw [markBroken_sights]; simp [Broker.shows]

@[simp] theorem reported_sights (reason : String) :
    (reported id desk reason).sights = desk.sights ++ [.told id (some reason)] := by
  simp [reported]

/-- A message that is resolved for good is acknowledged in the same way, however it is resolved. -/
theorem ackOf?_of_ne {r : Resolution} (h : r ≠ .requeued) : k.ackOf? d r = k.ackOf? d .acked := by
  have hr : (r == .requeued) = false := beq_eq_false_iff_ne.mpr h
  unfold ackOf?
  rw [hr]
  rfl

theorem ackOf?_requeued : k.ackOf? d .requeued = none := by
  unfold ackOf?
  rw [beq_self_eq_true, Bool.or_true]
  rfl

section
variable (answer : Answer)

theorem retry_sights {reason : String} (h : answer.result = .error (.failed reason)) :
    ((k.retry d id reason).run desk).2.sights = desk.sights ++
      (desk.broker.shows (k.ackOf? d (k.verdict (desk.ledger.get id) answer)) ++
        (k.verdict (desk.ledger.get id) answer).seenAtOnce) := by
  cases ha : k.contract.autoAck with
  | true =>
    obtain ⟨facts, hr⟩ := retry_lost k d id desk reason ha
    have hv : k.verdict (desk.ledger.get id) answer = .lost := by simp [verdict, h, ha]
    rw [hr, hv]
    simp [ackOf?, ha, Broker.shows, Resolution.seenAtOnce]
  | false =>
    by_cases hc : k.contract.maxRetry ≤ desk.ledger.get id
    · obtain ⟨facts, hr⟩ := retry_exhausted k d id desk reason ha hc
      have hv : k.verdict (desk.ledger.get id) answer = .exhausted := by simp [verdict, h, ha, hc]
      rw [hr, hv]
      simp [ackOf?, ha, Broker.shows, Resolution.seenAtOnce]
    · obtain ⟨facts, hr⟩ := retry_requeued k d id desk reason ha hc
      have hv : k.verdict (desk.ledger.get id) answer = .requeued := by simp [verdict, h, ha, hc]
      rw [hr, hv]
      simp [ackOf?, Broker.shows, Resolution.seenAtOnce]

/-- An answer is acted on in this order: the handler is told, the message is acknowledged if that is
the verdict, and the resolution is seen. -/
theorem conclude_sights :
    ((k.conclude d id answer).run desk).2.sights = desk.sights ++ .told id answer.failure? ::
      (desk.broker.shows (k.ackOf? d (k.verdict (desk.ledger.get id) answer)) ++
        (k.verdict (desk.ledger.get id) answer).seenAtOnce) := by
  cases h : answer.result with
  | ok u =>
    have hv : k.verdict (desk.ledger.get id) answer = .acked := by simp [verdict, h]
    rw [conclude_done k d id desk h, hv]
    simp [Answer.failure?, h, Resolution.seenAtOnce]
  | error e =>
    cases e with
    | malformed reason =>
      obtain ⟨facts, hr⟩ := conclude_malformed k d id desk h
      have hv : k.verdict (desk.ledger.get id) answer = .poisoned := by simp [verdict, h]
      rw [hr, hv, k.ackOf?_of_ne d (r := .poisoned) (by decide)]
      simp [Answer.failure?, h, Resolution.seenAtOnce]
    | failed reason =>
      rw [conclude_failed k d id desk h, retry_sights k d id _ _ h]
      simp [Answer.failure?, h]

end

theorem giveBack_sights :
    ((giveBack d).run desk).2.sights =
      desk.sights ++
        (desk.broker.shows (some (.nack d.tag false true)) ++ [.resolved .requeued]) := by
  rw [giveBack_run]
  split
  · exact (Desk.noted_sights _ _).trans (by simp [Broker.shows])
  · refine (Desk.noted_sights _ _).trans ?_
    rw [markBroken_sights]
    simp [Broker.shows]

/-- A body that is no envelope: the handler is told of a message without an id, and the message is
resolved. -/
theorem accept_error_sights {e : EnvelopeError}
    (h : Envelope.decode k.contract.payloadType d.message.body = .error e) :
    ((k.accept d).run desk).2.sights = desk.sights ++ .told "" (some e.message) ::
      (desk.broker.shows (k.ackOf? d .poisoned) ++ [.resolved .poisoned]) := by
  obtain ⟨facts, hr⟩ := k.accept_run_error d desk h
  rw [hr, k.ackOf?_of_ne d (r := .poisoned) (by decide)]
  simp

theorem accept_ok_sights {e : Envelope}
    (h : Envelope.decode k.contract.payloadType d.message.body = .ok e) :
    ((k.accept d).run desk).2.sights = desk.sights ++ [.handled e.payload] := by
  unfold accept
  rw [h]
  exact ((Desk.noted_sights _ _).trans (congrArg (· ++ _) (Desk.noted_sights desk _))).trans
    (by simp)

end Consumer
end Courier
