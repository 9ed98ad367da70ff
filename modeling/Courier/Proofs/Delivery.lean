import Courier.Delivery
import Courier.Proofs.Broker

/-! The resolution of a delivery: which verdict an answer gets, what it does to the ledger, and what
requests are made. -/
namespace Courier

/-- The request that an event tells of, and whether it succeeded. -/
def Event.request? : Event → Option (Request × Bool)
  | .request r ok => some (r, ok)
  | _ => none

/-- The payload whose handling begins with an event. -/
def Event.handling? : Event → Option Payload
  | .handled _ payload _ => some payload
  | _ => none

namespace Broker

/-- The broker after a request, if there is one. -/
@[simp] def served (b : Broker) : Option Request → Broker
  | none => b
  | some r => (b.call r).2

/-- The request, if there is one, and whether it succeeds. -/
@[simp] def replies (b : Broker) : Option Request → List (Request × Bool)
  | none => []
  | some r => [(r, (b.call r).1.isOk)]

end Broker

namespace Desk

def noted (d : Desk) (e : Event) : Desk :=
  { d with notes := d.notes ++ [⟨e, d.ledger.size + d.elsewhere⟩] }

/-- The desk after a request. -/
def called (d : Desk) (r : Request) : Desk :=
  { d.noted (.request r (d.broker.call r).1.isOk) with broker := (d.broker.call r).2 }

def withLedger (d : Desk) (l : Ledger) : Desk := { d with ledger := l }

/-- The requests made at the desk so far. -/
def requests (d : Desk) : List (Request × Bool) := d.notes.filterMap (·.event.request?)

/-- The payloads handled at the desk so far. -/
def handlings (d : Desk) : List Payload := d.notes.filterMap (·.event.handling?)

section
variable (d : Desk) (e : Event) (r : Request) (l : Ledger)

@[simp] theorem noted_ledger : (d.noted e).ledger = d.ledger := rfl

@[simp] theorem noted_broker : (d.noted e).broker = d.broker := rfl

@[simp] theorem noted_requests : (d.noted e).requests = d.requests ++ e.request?.toList := by
  unfold requests noted
  rw [List.filterMap_append]
  cases h : e.request? <;> simp [h]

@[simp] theorem noted_handlings : (d.noted e).handlings = d.handlings ++ e.handling?.toList := by
  unfold handlings noted
  rw [List.filterMap_append]
  cases h : e.handling? <;> simp [h]

@[simp] theorem called_ledger : (d.called r).ledger = d.ledger := rfl

@[simp] theorem called_broker : (d.called r).broker = (d.broker.call r).2 := rfl

@[simp] theorem called_requests :
    (d.called r).requests = d.requests ++ [(r, (d.broker.call r).1.isOk)] :=
  noted_requests d _

@[simp] theorem called_handlings : (d.called r).handlings = d.handlings :=
  (noted_handlings d _).trans (List.append_nil _)

@[simp] theorem withLedger_ledger : (d.withLedger l).ledger = l := rfl

@[simp] theorem withLedger_broker : (d.withLedger l).broker = d.broker := rfl

@[simp] theorem withLedger_requests : (d.withLedger l).requests = d.requests := rfl

@[simp] theorem withLedger_handlings : (d.withLedger l).handlings = d.handlings := rfl

end

theorem require_run {ε : Type} (lift : BrokerError → ε) (r : Request) (d : Desk) :
    (require lift r).run.run d = ((d.broker.call r).1.mapError lift, d.called r) := by
  unfold require
  rw [ExceptT.run_bind, StateT.run_bind]
  have called : (liftM (call r) : ExceptT ε (StateM Desk) (Except BrokerError Unit)).run.run d =
      (.ok (d.broker.call r).1, d.called r) := rfl
  rw [called]
  cases (d.broker.call r).1 <;> rfl

attribute [simp] Event.request? Event.handling?

/-- Work at a desk that leaves the ledger `l`, makes one request at most and handles the payloads
`handled`. -/
structure Effect (d d' : Desk) (l : Ledger) (r : Option Request) (handled : List Payload) :
    Prop where
  ledger : d'.ledger = l
  broker : d'.broker = d.broker.served r
  requests : d'.requests = d.requests ++ d.broker.replies r
  handlings : d'.handlings = d.handlings ++ handled

end Desk

/-- A crash is a failure, too. -/
def Answer.fails (a : Answer) : Bool :=
  match a.result with
  | .error (.failed _) => true
  | _ => false

/-- The ledger after a message has been resolved. -/
def Ledger.resolve (l : Ledger) (id : String) : Resolution → Ledger
  | .requeued => l.increment id
  | .lost => l
  | _ => l.remove id

/-- What a ledger has of a message after it has been resolved, if it had `count` before. -/
def Resolution.entered (count : Option UInt32) : Resolution → Option UInt32
  | .requeued => some (Ledger.succ (count.getD 0))
  | .lost => count
  | _ => none

theorem Ledger.count?_resolve (l : Ledger) (i j : String) (r : Resolution) :
    (l.resolve i r).count? j = if i = j then r.entered (l.count? j) else l.count? j := by
  by_cases h : i = j
  · subst h
    cases r <;> simp [resolve, Resolution.entered, count?_increment, count?_remove, get]
  · cases r <;> simp [resolve, count?_increment, count?_remove, h]

namespace Consumer

/-- How an answer resolves a message that has been sent back `count` times. -/
def verdict (k : Consumer) (count : UInt32) (answer : Answer) : Resolution :=
  match answer.result with
  | .ok () => .acked
  | .error (.malformed _) => .poisoned
  | .error (.failed _) =>
    if k.contract.autoAck then .lost
    else if k.contract.maxRetry ≤ count then .exhausted
    else .requeued

theorem verdict_requeued {k : Consumer} {count : UInt32} {answer : Answer}
    (h : k.verdict count answer = .requeued) :
    answer.fails = true ∧ k.contract.autoAck = false ∧ count < k.contract.maxRetry := by
  unfold verdict at h
  unfold Answer.fails
  split at h
  · cases h
  · cases h
  · next hr =>
    rw [hr]
    split at h
    · cases h
    · next ha =>
      split at h
      · cases h
      · next hc => exact ⟨rfl, by simpa using ha, by simpa using hc⟩

theorem verdict_exhausted {k : Consumer} {count : UInt32} {answer : Answer}
    (h : k.verdict count answer = .exhausted) : k.contract.maxRetry ≤ count := by
  unfold verdict at h
  split at h
  · cases h
  · cases h
  · split at h
    · cases h
    · split at h
      · assumption
      · cases h

theorem verdict_lost {k : Consumer} {count : UInt32} {answer : Answer}
    (h : k.verdict count answer = .lost) : k.contract.autoAck = true := by
  unfold verdict at h
  split at h
  · cases h
  · cases h
  · split at h
    · assumption
    · split at h <;> cases h

theorem verdict_of_manual {k : Consumer} (hk : k.contract.autoAck = false) {count : UInt32}
    {answer : Answer} (hn : k.verdict count answer ≠ .requeued) :
    (∀ entry, (k.verdict count answer).entered entry = none) ∧
      (answer.fails = true → k.contract.maxRetry ≤ count) := by
  unfold verdict at hn ⊢
  unfold Answer.fails
  cases hr : answer.result with
  | ok => exact ⟨fun _ => rfl, fun h => by cases h⟩
  | error e =>
    cases e with
    | malformed => exact ⟨fun _ => rfl, fun h => by cases h⟩
    | failed =>
      rw [hr, hk] at hn
      rw [hk]
      by_cases hc : k.contract.maxRetry ≤ count
      · simp only [Bool.false_eq_true, if_false, if_pos hc]
        exact ⟨fun _ => rfl, fun _ => hc⟩
      · simp [hc] at hn

/-- A message is acknowledged when it is resolved for good, unless the broker has done so. -/
def ackOf? (k : Consumer) (d : Delivery) (r : Resolution) : Option Request :=
  if k.contract.autoAck || r == .requeued then none else some (.ack d.tag false)

theorem ackOf?_cases (k : Consumer) (d : Delivery) (r : Resolution) :
    k.ackOf? d r = none ∨ k.ackOf? d r = some (.ack d.tag false) := by
  unfold ackOf?
  split
  · exact Or.inl rfl
  · exact Or.inr rfl

theorem apart_ackOf? (k : Consumer) (d : Delivery) (r : Resolution) (b : Broker) :
    Broker.Apart d.tag b (b.served (k.ackOf? d r)) := by
  rcases k.ackOf?_cases d r with h | h <;> rw [h]
  · exact .refl d.tag b
  · exact b.apart_call_ack d.tag

theorem returned_ackOf? (k : Consumer) (d : Delivery) (r : Resolution) (b : Broker) :
    (b.served (k.ackOf? d r)).returned = b.returned := by
  rcases k.ackOf?_cases d r with h | h <;> rw [h]
  · rfl
  · exact b.call_ack_returned d.tag

section
variable (k : Consumer) (d : Delivery) (desk : Desk)

theorem acknowledge_autoAck (h : k.contract.autoAck = true) :
    (k.acknowledge d).run desk = ((), desk) := by
  unfold acknowledge
  rw [h]
  rfl

theorem acknowledge_manual (h : k.contract.autoAck = false) :
    (k.acknowledge d).run desk =
      match (desk.broker.call (.ack d.tag false)).1 with
      | .ok () => ((), desk.called (.ack d.tag false))
      | .error e =>
        (markBroken e d.tag "error whiling ack msg" "error to ack msg").run
          (desk.called (.ack d.tag false)) := by
  unfold acknowledge
  rw [h]
  change (match (desk.broker.call (.ack d.tag false)).1 with
    | .ok () => (pure () : StateM Desk Unit)
    | .error e => markBroken e d.tag "error whiling ack msg" "error to ack msg").run _ = _
  cases (desk.broker.call (.ack d.tag false)).1 <;> rfl

/-- The desk after the delivery has been acknowledged. -/
def acknowledged : Desk := ((k.acknowledge d).run desk).2

@[simp] theorem acknowledged_ledger : (k.acknowledged d desk).ledger = desk.ledger := by
  unfold acknowledged
  cases h : k.contract.autoAck with
  | true => rw [acknowledge_autoAck k d desk h]
  | false =>
    rw [acknowledge_manual k d desk h]
    split <;> rfl

@[simp] theorem acknowledged_broker :
    (k.acknowledged d desk).broker =
      if k.contract.autoAck then desk.broker else (desk.broker.call (.ack d.tag false)).2 := by
  unfold acknowledged
  cases h : k.contract.autoAck with
  | true => rw [acknowledge_autoAck k d desk h]; rfl
  | false =>
    rw [acknowledge_manual k d desk h]
    split <;> rfl

theorem markBroken_requests (e : BrokerError) (tag : Nat) (message status : String) :
    ((markBroken e tag message status).run desk).2.requests = desk.requests := by
  change ((desk.noted _).noted _).requests = _
  simp

theorem markBroken_handlings (e : BrokerError) (tag : Nat) (message status : String) :
    ((markBroken e tag message status).run desk).2.handlings = desk.handlings := by
  change ((desk.noted _).noted _).handlings = _
  simp

@[simp] theorem acknowledged_requests :
    (k.acknowledged d desk).requests = desk.requests ++
      if k.contract.autoAck then []
      else [(.ack d.tag false, (desk.broker.call (.ack d.tag false)).1.isOk)] := by
  unfold acknowledged
  cases h : k.contract.autoAck with
  | true => rw [acknowledge_autoAck k d desk h]; simp
  | false =>
    rw [acknowledge_manual k d desk h]
    split
    · simp
    · rw [markBroken_requests]; simp

@[simp] theorem acknowledged_handlings :
    (k.acknowledged d desk).handlings = desk.handlings := by
  unfold acknowledged
  cases h : k.contract.autoAck with
  | true => rw [acknowledge_autoAck k d desk h]
  | false =>
    rw [acknowledge_manual k d desk h]
    split
    · simp
    · rw [markBroken_handlings]; simp

end

section Conclude
variable (k : Consumer) (d : Delivery) (id : String) {answer : Answer} (desk : Desk)

theorem conclude_done (h : answer.result = .ok ()) :
    (k.conclude d id answer).run desk =
      (.acked, ((k.acknowledged d
        ((desk.noted (.outcome id none)).withLedger (desk.ledger.remove id))).noted
          (.spanStatus .ok)).noted (.resolved .acked)) := by
  unfold conclude
  rw [h]
  rfl

/-- The desk when a failure has been reported. -/
def reported (reason : String) : Desk :=
  (desk.noted (.spanStatus (.error reason))).noted (.outcome id (some reason))

@[simp] theorem reported_ledger (reason : String) :
    (reported id desk reason).ledger = desk.ledger := rfl

@[simp] theorem reported_broker (reason : String) :
    (reported id desk reason).broker = desk.broker := rfl

@[simp] theorem reported_requests (reason : String) :
    (reported id desk reason).requests = desk.requests := by
  simp [reported]

@[simp] theorem reported_handlings (reason : String) :
    (reported id desk reason).handlings = desk.handlings := by
  simp [reported]

theorem conclude_malformed {reason : String} (h : answer.result = .error (.malformed reason)) :
    ∃ facts, (k.conclude d id answer).run desk =
      (.poisoned, (k.acknowledged d
        ((reported id (desk.noted (.log .error "removing malformed message from queue" facts))
          reason).withLedger (desk.ledger.remove id))).noted (.resolved .poisoned)) := by
  unfold conclude
  rw [h]
  exact ⟨_, rfl⟩

theorem conclude_failed {reason : String} (h : answer.result = .error (.failed reason)) :
    (k.conclude d id answer).run desk = (k.retry d id reason).run (reported id desk reason) := by
  unfold conclude
  rw [h]
  rfl

theorem retry_lost (reason : String) (h : k.contract.autoAck = true) :
    ∃ facts, (k.retry d id reason).run desk =
      (.lost, (desk.noted (.log .warn "failure on auto-ack queue, message cannot be requeued"
        facts)).noted (.resolved .lost)) := by
  unfold retry
  rw [h]
  exact ⟨_, rfl⟩

theorem retry_exhausted (reason : String) (h : k.contract.autoAck = false)
    (hc : k.contract.maxRetry ≤ desk.ledger.get id) :
    ∃ facts, (k.retry d id reason).run desk =
      (.exhausted, (k.acknowledged d
        ((desk.noted (.log .error "too many attempts, dropping message" facts)).withLedger
          (desk.ledger.remove id))).noted (.resolved .exhausted)) := by
  refine ⟨[("error", .text reason), ("message_id", .text id), ("queue", .text k.queue)] ++
    [("retries", .number (desk.ledger.get id).toNat)], ?_⟩
  unfold retry
  rw [h]
  change (if k.contract.maxRetry ≤ desk.ledger.get id then _ else _ : StateM Desk Resolution).run
    desk = _
  rw [if_pos hc]
  rfl

theorem retry_requeued (reason : String) (h : k.contract.autoAck = false)
    (hc : ¬ k.contract.maxRetry ≤ desk.ledger.get id) :
    ∃ facts, (k.retry d id reason).run desk =
      (.requeued, (desk.withLedger (desk.ledger.increment id)).noted
        (.log .warn "error whiling handling msg, requeuing for latter" facts)) := by
  refine ⟨[("error", .text reason), ("message_id", .text id), ("queue", .text k.queue)] ++
    [("retry", .number ((desk.ledger.increment id).get id).toNat),
      ("delay_ms", .number k.contract.retryInterval)], ?_⟩
  unfold retry
  rw [h]
  change (if k.contract.maxRetry ≤ desk.ledger.get id then _ else _ : StateM Desk Resolution).run
    desk = _
  rw [if_neg hc]
  rfl

theorem retry_effect (reason : String) (h : answer.result = .error (.failed reason)) :
    ((k.retry d id reason).run desk).1 = k.verdict (desk.ledger.get id) answer ∧
      desk.Effect ((k.retry d id reason).run desk).2
        (desk.ledger.resolve id (k.verdict (desk.ledger.get id) answer))
        (k.ackOf? d (k.verdict (desk.ledger.get id) answer)) [] := by
  cases ha : k.contract.autoAck with
  | true =>
    obtain ⟨facts, hr⟩ := retry_lost k d id desk reason ha
    have hv : k.verdict (desk.ledger.get id) answer = .lost := by simp [verdict, h, ha]
    rw [hr, hv]
    refine ⟨rfl, ⟨?_, ?_, ?_, ?_⟩⟩ <;> simp [Ledger.resolve, ackOf?, ha]
  | false =>
    by_cases hc : k.contract.maxRetry ≤ desk.ledger.get id
    · obtain ⟨facts, hr⟩ := retry_exhausted k d id desk reason ha hc
      have hv : k.verdict (desk.ledger.get id) answer = .exhausted := by simp [verdict, h, ha, hc]
      rw [hr, hv]
      refine ⟨rfl, ⟨?_, ?_, ?_, ?_⟩⟩ <;> simp [Ledger.resolve, ackOf?, ha]
    · obtain ⟨facts, hr⟩ := retry_requeued k d id desk reason ha hc
      have hv : k.verdict (desk.ledger.get id) answer = .requeued := by simp [verdict, h, ha, hc]
      rw [hr, hv]
      refine ⟨rfl, ⟨?_, ?_, ?_, ?_⟩⟩ <;> simp [Ledger.resolve, ackOf?, ha]

/-- The answer is judged by the count that the ledger has of the message; the ledger and the broker
get to know the verdict. -/
theorem conclude_effect (answer : Answer) :
    ((k.conclude d id answer).run desk).1 = k.verdict (desk.ledger.get id) answer ∧
      desk.Effect ((k.conclude d id answer).run desk).2
        (desk.ledger.resolve id (k.verdict (desk.ledger.get id) answer))
        (k.ackOf? d (k.verdict (desk.ledger.get id) answer)) [] := by
  cases h : answer.result with
  | ok u =>
    have hv : k.verdict (desk.ledger.get id) answer = .acked := by simp [verdict, h]
    rw [conclude_done k d id desk h, hv]
    refine ⟨rfl, ⟨?_, ?_, ?_, ?_⟩⟩ <;> cases ha : k.contract.autoAck <;>
      simp [Ledger.resolve, ackOf?, ha]
  | error e =>
    cases e with
    | malformed reason =>
      obtain ⟨facts, hr⟩ := conclude_malformed k d id desk h
      have hv : k.verdict (desk.ledger.get id) answer = .poisoned := by simp [verdict, h]
      rw [hr, hv]
      refine ⟨rfl, ⟨?_, ?_, ?_, ?_⟩⟩ <;> cases ha : k.contract.autoAck <;>
        simp [Ledger.resolve, ackOf?, ha]
    | failed reason =>
      rw [conclude_failed k d id desk h]
      obtain ⟨hv, hl, hb, hr, hh⟩ := retry_effect k d id (reported id desk reason) reason h
      rw [reported_requests] at hr
      rw [reported_handlings] at hh
      exact ⟨hv, hl, hb, hr, hh⟩

end Conclude

theorem giveBack_run (d : Delivery) (desk : Desk) :
    (giveBack d).run desk = match (desk.broker.call (.nack d.tag false true)).1 with
      | .ok () => (resolve .requeued).run (desk.called (.nack d.tag false true))
      | .error e => (resolve .requeued).run ((markBroken e d.tag "error whiling requeuing"
          "error to requeuing msg").run (desk.called (.nack d.tag false true))).2 := by
  unfold giveBack
  change (match (desk.broker.call (.nack d.tag false true)).1 with
    | .ok () => resolve .requeued
    | .error e => do
      markBroken e d.tag "error whiling requeuing" "error to requeuing msg"
      resolve .requeued).run _ = _
  cases (desk.broker.call (.nack d.tag false true)).1 <;> rfl

theorem giveBack_effect (d : Delivery) (desk : Desk) :
    desk.Effect ((giveBack d).run desk).2 desk.ledger (some (.nack d.tag false true)) [] := by
  rw [giveBack_run]
  split
  · exact ⟨rfl, rfl, (Desk.noted_requests _ _).trans (by simp),
      (Desk.noted_handlings _ _).trans (by simp)⟩
  · refine ⟨rfl, rfl, (Desk.noted_requests _ _).trans ?_, (Desk.noted_handlings _ _).trans ?_⟩
    · rw [markBroken_requests]
      simp
    · rw [markBroken_handlings]
      simp

section Accept
variable (k : Consumer) (d : Delivery) (desk : Desk)

theorem accept_run_error {e : EnvelopeError}
    (h : Envelope.decode k.contract.payloadType d.message.body = .error e) :
    ∃ facts, (k.accept d).run desk = (none, (k.acknowledged d
      ((((desk.noted (.spanOpened k.queue d.message.headers)).noted
        (.log .error "removing poison message from queue" facts)).noted
          (.spanStatus (.error e.message))).noted (.outcome "" (some e.message)))).noted
            (.resolved .poisoned)) := by
  unfold accept
  rw [h]
  exact ⟨_, rfl⟩

/-- A body that is no envelope is dropped, and no handler gets to know of it. -/
theorem accept_error {e : EnvelopeError}
    (h : Envelope.decode k.contract.payloadType d.message.body = .error e) :
    ((k.accept d).run desk).1 = none ∧
      desk.Effect ((k.accept d).run desk).2 desk.ledger (k.ackOf? d .poisoned) [] := by
  obtain ⟨facts, hr⟩ := k.accept_run_error d desk h
  rw [hr]
  refine ⟨rfl, ⟨?_, ?_, ?_, ?_⟩⟩ <;> cases ha : k.contract.autoAck <;> simp [ackOf?, ha]

/-- The handler's turn at a payload, as things stand at the desk. -/
def turn (payload : Payload) : Turn :=
  k.contract.handler.handle payload (desk.handled.count k.label payload + 1)

theorem accept_ok {e : Envelope}
    (h : Envelope.decode k.contract.payloadType d.message.body = .ok e) :
    ((k.accept d).run desk).1 = some (e.id, k.turn desk e.payload) ∧
      desk.Effect ((k.accept d).run desk).2 desk.ledger none [e.payload] := by
  have hr : (k.accept d).run desk = (some (e.id, k.turn desk e.payload),
      { desk.noted (.spanOpened k.queue d.message.headers) with
        handled := desk.handled.add k.label e.payload }.noted
          (.handled k.contract.payloadType e.payload
            (desk.handled.count k.label e.payload + 1))) := by
    unfold accept
    rw [h]
    rfl
  rw [hr]
  refine ⟨rfl, ⟨rfl, rfl, ?_, ?_⟩⟩
  · rw [Desk.noted_requests]
    exact (List.append_nil _).trans ((Desk.noted_requests desk _).trans (by simp))
  · rw [Desk.noted_handlings]
    exact congrArg (· ++ [e.payload]) ((Desk.noted_handlings desk _).trans (by simp))

end Accept
end Consumer
end Courier
