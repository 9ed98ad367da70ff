import Courier.Proofs.Delivery
import Courier.Proofs.Work

/-! Two desks that differ only in which acknowledgements are going to fail, and in what comes of
that: their brokers take different messages to be in flight, and some of their notes differ. Work
goes the same way at both. -/
namespace Courier

/-- What an event tells, apart from how acknowledgements fare, from logs and from the status of
spans. -/
def Event.plain? : Event → Option Event
  | .request (.ack tag multiple) _ => some (.request (.ack tag multiple) true)
  | .spanStatus _ | .log _ _ _ => none
  | e => some e

def Note.plain? (n : Note) : Option Note := n.event.plain?.map fun e => ⟨e, n.entries⟩

namespace Broker

/-- A broker like another, with other plans for acknowledgements and other messages in flight. -/
def Twin (b b' : Broker) : Prop :=
  ∃ faults inFlight, b' = { b with faults, inFlight } ∧
    ∀ rpc, rpc ≠ .ack → faults.ahead rpc = b.faults.ahead rpc

section
variable {b b' : Broker}

theorem Twin.spend (h : b.Twin b') (rpc : Rpc) : (b.spend rpc).Twin (b'.spend rpc) := by
  obtain ⟨faults, inFlight, rfl, hplan⟩ := h
  refine ⟨(faults.take rpc).2, inFlight, rfl, fun other hother => ?_⟩
  change (faults.take rpc).2.ahead other = (b.faults.take rpc).2.ahead other
  rw [Plan.ahead_take, Plan.ahead_take, hplan other hother]

theorem Twin.fault_eq (h : b.Twin b') {rpc : Rpc} (hr : rpc ≠ .ack) :
    (b'.faults.take rpc).1 = (b.faults.take rpc).1 := by
  obtain ⟨faults, inFlight, rfl, hplan⟩ := h
  rw [Plan.take_fst, Plan.take_fst, hplan rpc hr]

theorem Twin.after (h : b.Twin b') {r : Request} (ack : r.rpc ≠ .ack) (nack : r.rpc ≠ .nack) :
    (b.after r).Twin (b'.after r) := by
  obtain ⟨faults, inFlight, rfl, hplan⟩ := h
  cases r with
  | ack => exact absurd rfl ack
  | nack => exact absurd rfl nack
  | publish =>
    unfold Broker.after
    dsimp only
    split <;> exact ⟨faults, inFlight, rfl, hplan⟩
  | _ => exact ⟨faults, inFlight, rfl, hplan⟩

/-- What is in flight under a tag may be forgotten by one of them. -/
theorem Twin.settled_left (h : b.Twin b') (tag : Nat) : (b.settled tag).Twin b' := by
  obtain ⟨faults, inFlight, rfl, hplan⟩ := h
  exact ⟨faults, inFlight, rfl, hplan⟩

theorem Twin.settled_right (h : b.Twin b') (tag : Nat) : b.Twin (b'.settled tag) := by
  obtain ⟨faults, inFlight, rfl, hplan⟩ := h
  exact ⟨faults, _, rfl, hplan⟩

/-- Both take the same message back, if they have the same one in flight. -/
theorem Twin.takeBack (h : b.Twin b') {tag : Nat} (same : b'.parcel? tag = b.parcel? tag)
    (requeue : Bool) : (b.takeBack tag requeue).Twin (b'.takeBack tag requeue) := by
  have hsettled := (h.settled_left tag).settled_right tag
  obtain ⟨faults, inFlight, rfl, hplan⟩ := h
  unfold parcel? at same
  unfold Broker.takeBack
  rw [same]
  cases b.inFlight.find? (·.tag = tag) with
  | none => exact ⟨faults, inFlight, rfl, hplan⟩
  | some p =>
    dsimp only
    change Twin (if (requeue && b.redelivers) = true then _ else _)
      (if (requeue && b.redelivers) = true then _ else _)
    split
    · exact ⟨faults, _, rfl, hplan⟩
    · exact hsettled

theorem Twin.call (h : b.Twin b') {r : Request} (ack : r.rpc ≠ .ack) (nack : r.rpc ≠ .nack) :
    (b'.call r).1 = (b.call r).1 ∧ (b.call r).2.Twin (b'.call r).2 := by
  have hspent := h.spend r.rpc
  rw [call_eq, call_eq, h.fault_eq ack]
  cases (b.faults.take r.rpc).1 with
  | some error => exact ⟨rfl, hspent⟩
  | none => exact ⟨rfl, hspent.after ack nack⟩

/-- An acknowledgement may fail with one of them and not with the other. -/
theorem Twin.call_ack (h : b.Twin b') (tag : Nat) :
    (b.call (.ack tag false)).2.Twin (b'.call (.ack tag false)).2 := by
  have hspent := h.spend .ack
  rw [call_eq, call_eq]
  dsimp only [Request.rpc]
  cases (b.faults.take .ack).1 <;> cases (b'.faults.take .ack).1
  · exact (hspent.settled_left tag).settled_right tag
  · exact hspent.settled_left tag
  · exact hspent.settled_right tag
  · exact hspent

theorem Twin.call_nack (h : b.Twin b') {tag : Nat} (same : b'.parcel? tag = b.parcel? tag) :
    (b'.call (.nack tag false true)).1 = (b.call (.nack tag false true)).1 ∧
      (b.call (.nack tag false true)).2.Twin (b'.call (.nack tag false true)).2 := by
  have hspent := h.spend .nack
  have hfault : (b'.faults.take .nack).1 = (b.faults.take .nack).1 := h.fault_eq Rpc.noConfusion
  rw [call_eq, call_eq]
  dsimp only [Request.rpc]
  rw [hfault]
  cases (b.faults.take .nack).1 with
  | some error => exact ⟨rfl, hspent⟩
  | none => exact ⟨rfl, hspent.takeBack same true⟩

theorem Twin.handOver (h : b.Twin b') (stream : Nat) (message : Message) (tag : Option Nat) :
    (b'.handOver stream message tag).1 = (b.handOver stream message tag).1 ∧
      (b.handOver stream message tag).2.Twin (b'.handOver stream message tag).2 := by
  obtain ⟨faults, inFlight, rfl, hplan⟩ := h
  exact ⟨rfl, faults, _, rfl, hplan⟩

end
end Broker

namespace Desk

/-- A desk like another, with such a broker, and with notes that tell the same apart from what
acknowledgements have to do with. -/
def Twin (d d' : Desk) : Prop :=
  ∃ broker notes, d' = { d with broker, notes } ∧ d.broker.Twin broker ∧
    notes.filterMap Note.plain? = d.notes.filterMap Note.plain?

section
variable {d d' : Desk}

theorem Twin.broker (h : d.Twin d') : d.broker.Twin d'.broker := by
  obtain ⟨broker, notes, rfl, hbroker, -⟩ := h
  exact hbroker

theorem Twin.ledger (h : d.Twin d') : d'.ledger = d.ledger := by
  obtain ⟨broker, notes, rfl, -, -⟩ := h
  rfl

theorem Twin.confirm (h : d.Twin d') : d'.broker.confirm = d.broker.confirm := by
  obtain ⟨faults, inFlight, hsame, -⟩ := h.broker
  rw [hsame]

/-- Both note events that tell the same. -/
theorem Twin.noted (h : d.Twin d') {e e' : Event} (same : e'.plain? = e.plain?) :
    (d.noted e).Twin (d'.noted e') := by
  obtain ⟨broker, notes, rfl, hbroker, hnotes⟩ := h
  refine ⟨broker, _, rfl, hbroker, ?_⟩
  have hnote : Note.plain? ⟨e', d.ledger.size + d.elsewhere⟩ =
      Note.plain? ⟨e, d.ledger.size + d.elsewhere⟩ := by
    unfold Note.plain?
    rw [same]
  change (notes ++ [_]).filterMap Note.plain? = (d.notes ++ [_]).filterMap Note.plain?
  rw [List.filterMap_append, List.filterMap_append, hnotes]
  exact congrArg _ (by simp [List.filterMap_cons, hnote])

theorem Twin.noted_left (h : d.Twin d') {e : Event} (hidden : e.plain? = none) :
    (d.noted e).Twin d' := by
  obtain ⟨broker, notes, rfl, hbroker, hnotes⟩ := h
  refine ⟨broker, notes, rfl, hbroker, ?_⟩
  change notes.filterMap Note.plain? = (d.notes ++ [_]).filterMap Note.plain?
  rw [List.filterMap_append, hnotes]
  simp [Note.plain?, hidden]

theorem Twin.noted_right (h : d.Twin d') {e : Event} (hidden : e.plain? = none) :
    d.Twin (d'.noted e) := by
  obtain ⟨broker, notes, rfl, hbroker, hnotes⟩ := h
  refine ⟨broker, _, rfl, hbroker, ?_⟩
  change (notes ++ [_]).filterMap Note.plain? = d.notes.filterMap Note.plain?
  rw [List.filterMap_append, hnotes]
  simp [Note.plain?, hidden]

theorem Twin.withBroker (h : d.Twin d') {b b' : Broker} (hb : b.Twin b') :
    ({ d with broker := b } : Desk).Twin { d' with broker := b' } := by
  obtain ⟨broker, notes, rfl, -, hnotes⟩ := h
  exact ⟨b', notes, rfl, hb, hnotes⟩

/-- Requests that are made at both desks, with the same result unless they are acknowledgements. -/
theorem Twin.called (h : d.Twin d') {r : Request}
    (hb : (d.broker.call r).2.Twin (d'.broker.call r).2)
    (same : (Event.request r (d'.broker.call r).1.isOk).plain? =
      (Event.request r (d.broker.call r).1.isOk).plain?) :
    (d.called r).Twin (d'.called r) :=
  (h.noted same).withBroker hb

theorem Twin.call (h : d.Twin d') {r : Request} (ack : r.rpc ≠ .ack) (nack : r.rpc ≠ .nack) :
    (d'.broker.call r).1 = (d.broker.call r).1 ∧ (d.called r).Twin (d'.called r) := by
  obtain ⟨hsame, hb⟩ := h.broker.call ack nack
  exact ⟨hsame, h.called hb (by rw [hsame])⟩

end
end Desk

namespace Consumer
variable {d d' : Desk} (k : Consumer) (dl : Delivery)

/-- Nobody but operators can tell whether an acknowledgement has succeeded. -/
theorem acknowledge_twin (h : d.Twin d') :
    ((k.acknowledge dl).run d).2.Twin ((k.acknowledge dl).run d').2 := by
  have hcalled : (d.called (.ack dl.tag false)).Twin (d'.called (.ack dl.tag false)) :=
    h.called (h.broker.call_ack dl.tag) rfl
  cases ha : k.contract.autoAck with
  | true =>
    rw [k.acknowledge_autoAck dl d ha, k.acknowledge_autoAck dl d' ha]
    exact h
  | false =>
    rw [k.acknowledge_manual dl d ha, k.acknowledge_manual dl d' ha]
    cases (d.broker.call (.ack dl.tag false)).1 <;> cases (d'.broker.call (.ack dl.tag false)).1
    · exact (((hcalled.noted_left rfl).noted_left rfl).noted_right rfl).noted_right rfl
    · exact (hcalled.noted_left rfl).noted_left rfl
    · exact (hcalled.noted_right rfl).noted_right rfl
    · exact hcalled

end Consumer

/-- Work in which no delivery is given back goes the same way at both desks. -/
theorem Made.twin {α : Type} {work : StateM Desk α} (h : Made Chore.keeps work) {d d' : Desk}
    (twin : d.Twin d') :
    (work.run d').1 = (work.run d).1 ∧ (work.run d).2.Twin (work.run d').2 := by
  induction h generalizing d d' with
  | pure a => exact ⟨rfl, twin⟩
  | @bind _ _ work next _ _ first rest =>
    obtain ⟨hsame, hdesks⟩ := first twin
    obtain ⟨hsame', hdesks'⟩ := rest (work.run d).1 hdesks
    change ((next (work.run d').1).run (work.run d').2).1 = _ ∧
      Desk.Twin _ ((next (work.run d').1).run (work.run d').2).2
    rw [hsame]
    exact ⟨hsame', hdesks'⟩
  | @look _ next _ sees rest =>
    have hnext : next d' = next d := sees d d' twin.ledger twin.confirm
    change ((next d').run d').1 = _ ∧ Desk.Twin _ ((next d').run d').2
    rw [hnext]
    exact rest d twin
  | note => exact ⟨rfl, twin.noted rfl⟩
  | @call r ok =>
    have hr : r.rpc ≠ .ack ∧ r.rpc ≠ .nack := by simpa [Chore.keeps] using ok
    exact twin.call hr.1 hr.2
  | acknowledge => exact ⟨rfl, Consumer.acknowledge_twin _ _ twin⟩
  | _ =>
    obtain ⟨broker, notes, rfl, hbroker, hnotes⟩ := twin
    exact ⟨rfl, broker, notes, rfl, hbroker, hnotes⟩

/-- A message is given back in the same way at both desks, if both brokers have the same message in
flight. -/
theorem Consumer.giveBack_twin {dl : Delivery} {d d' : Desk} (h : d.Twin d')
    (same : d'.broker.parcel? dl.tag = d.broker.parcel? dl.tag) :
    ((giveBack dl).run d).2.Twin ((giveBack dl).run d').2 := by
  obtain ⟨hresult, hb⟩ := h.broker.call_nack same
  have hcalled : (d.called (.nack dl.tag false true)).Twin (d'.called (.nack dl.tag false true)) :=
    h.called hb (by rw [hresult])
  rw [giveBack_run, giveBack_run, hresult]
  cases (d.broker.call (.nack dl.tag false true)).1 with
  | ok => exact hcalled.noted rfl
  | error e => exact ((hcalled.noted rfl).noted rfl).noted rfl

end Courier
