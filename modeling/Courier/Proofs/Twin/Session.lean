import Courier.Proofs.Session.Tagged
import Courier.Proofs.Twin.Desk

/-! Two sessions that differ only in which acknowledgements are going to fail, and in what comes of
that. Whatever is done in both keeps them so. -/
namespace Courier

/-- What an entry tells, apart from what acknowledgements have to do with. -/
def Entry.plain? (e : Entry) : Option Entry := e.note.plain?.map fun n => ⟨e.time, e.delivery, n⟩

/-- What entries tell, apart from how acknowledgements fare, from logs and from the status of
spans. -/
def Entry.plain (entries : List Entry) : List Entry := entries.filterMap Entry.plain?

theorem Entry.plain_append (es es' : List Entry) :
    Entry.plain (es ++ es') = Entry.plain es ++ Entry.plain es' := List.filterMap_append

/-- A handler that is not told of an event is not told of what it tells either. -/
theorem Handler.hears_plain {h : Handler} {e e' : Event} (he : e.plain? = some e') :
    h.hears e' = h.hears e := by
  cases e with
  | request r ok => cases r <;> cases he <;> rfl
  | spanStatus | log => cases he
  | _ =>
    cases he
    rfl

/-- What notes tell is entered into the journal, without what the handler is not told. -/
theorem Entry.plain_heard (h : Handler) (time : Nat) (delivery : Option (Nat × Nat))
    (notes : List Note) :
    Entry.plain ((notes.filter fun n => h.hears n.event).map fun n => ⟨time, delivery, n⟩) =
      ((notes.filterMap Note.plain?).filter fun n => h.hears n.event).map
        fun n => ⟨time, delivery, n⟩ := by
  unfold Entry.plain
  rw [List.filterMap_map, List.filterMap_filter, List.filter_filterMap, List.map_filterMap]
  congr 1
  funext n
  change (if h.hears n.event = true then n.plain?.map _ else none) =
    (n.plain?.filter fun n => h.hears n.event).map _
  unfold Note.plain?
  cases hp : n.event.plain? with
  | none => simp
  | some e =>
    have hsame : h.hears e = h.hears n.event := Handler.hears_plain hp
    cases hh : h.hears n.event <;> simp [Option.filter, hsame, hh]

namespace Session

/-- A session like another, with such a broker, and with a journal that tells the same. -/
def Twin (s t : Session) : Prop :=
  ∃ broker journal, t = { s with broker, journal } ∧ s.broker.Twin broker ∧
    Entry.plain journal = Entry.plain s.journal

section
variable {s t : Session}

theorem Twin.broker (h : s.Twin t) : s.broker.Twin t.broker := by
  obtain ⟨broker, journal, rfl, hbroker, -⟩ := h
  exact hbroker

theorem Twin.env (h : s.Twin t) : t.env = s.env := by
  obtain ⟨broker, journal, rfl, -, -⟩ := h
  rfl

theorem Twin.now (h : s.Twin t) : t.now = s.now := by
  obtain ⟨broker, journal, rfl, -, -⟩ := h
  rfl

theorem Twin.dispatchers (h : s.Twin t) : t.dispatchers = s.dispatchers := by
  obtain ⟨broker, journal, rfl, -, -⟩ := h
  rfl

theorem Twin.subscriptions (h : s.Twin t) : t.subscriptions = s.subscriptions := by
  obtain ⟨broker, journal, rfl, -, -⟩ := h
  rfl

theorem Twin.tasks (h : s.Twin t) : t.tasks = s.tasks := by
  obtain ⟨broker, journal, rfl, -, -⟩ := h
  rfl

theorem Twin.streams (h : s.Twin t) : t.broker.streams = s.broker.streams := by
  obtain ⟨faults, inFlight, hb, -⟩ := h.broker
  rw [hb]

theorem Twin.handedOver (h : s.Twin t) : t.broker.handedOver = s.broker.handedOver := by
  obtain ⟨faults, inFlight, hb, -⟩ := h.broker
  rw [hb]

theorem Twin.returned (h : s.Twin t) : t.broker.returned = s.broker.returned := by
  obtain ⟨faults, inFlight, hb, -⟩ := h.broker
  rw [hb]

theorem Twin.postings (h : s.Twin t) : t.broker.postings = s.broker.postings := by
  obtain ⟨faults, inFlight, hb, -⟩ := h.broker
  rw [hb]

theorem Twin.isOpen (h : s.Twin t) (n : Nat) : t.broker.isOpen n = s.broker.isOpen n := by
  unfold Broker.isOpen
  rw [h.streams]

theorem Twin.plain (h : s.Twin t) : Entry.plain t.journal = Entry.plain s.journal := by
  obtain ⟨broker, journal, rfl, -, hjournal⟩ := h
  exact hjournal

theorem Twin.desk (h : s.Twin t) (ledger : Nat) : (s.desk ledger).Twin (t.desk ledger) := by
  obtain ⟨broker, journal, rfl, hbroker, -⟩ := h
  exact ⟨broker, [], rfl, hbroker, rfl⟩

/-- Work that goes the same way at both desks. -/
theorem Twin.act_of_desk {α : Type} {work : StateM Desk α} {ledger : Nat} (h : s.Twin t)
    (delivery : Option (Nat × Nat)) (handler : Handler)
    (done : (work.run (s.desk ledger)).2.Twin (work.run (t.desk ledger)).2) :
    (s.act ledger delivery handler work).2.Twin (t.act ledger delivery handler work).2 := by
  obtain ⟨broker, journal, rfl, -, hjournal⟩ := h
  unfold act
  generalize work.run (s.desk ledger) = result at done ⊢
  generalize work.run ({ s with broker, journal }.desk ledger) = result' at done ⊢
  obtain ⟨a, d⟩ := result
  obtain ⟨a', d'⟩ := result'
  dsimp only at done ⊢
  obtain ⟨broker', notes, rfl, hbroker', hnotes⟩ := done
  refine ⟨broker', _, rfl, hbroker', ?_⟩
  dsimp only
  rw [Entry.plain_append, Entry.plain_append, hjournal, Entry.plain_heard, Entry.plain_heard,
    hnotes]

theorem Twin.act {α : Type} {work : StateM Desk α} (h : s.Twin t) (made : Made Chore.keeps work)
    (ledger : Nat) (delivery : Option (Nat × Nat)) (handler : Handler) :
    (t.act ledger delivery handler work).1 = (s.act ledger delivery handler work).1 ∧
      (s.act ledger delivery handler work).2.Twin (t.act ledger delivery handler work).2 := by
  obtain ⟨hsame, hdone⟩ := made.twin (h.desk ledger)
  exact ⟨hsame, h.act_of_desk delivery handler hdone⟩

/-- Works that have given the same, and the twins they have left. -/
theorem Twin.of_works {α : Type} {x y : α × Session} (h : y.1 = x.1 ∧ x.2.Twin y.2) :
    ∃ a s t, x = (a, s) ∧ y = (a, t) ∧ s.Twin t :=
  ⟨x.1, x.2, y.2, rfl, Prod.ext h.1 rfl, h.2⟩

theorem Twin.enqueue (h : s.Twin t) (w : Task) : (s.enqueue w).Twin (t.enqueue w) := by
  obtain ⟨broker, journal, rfl, hbroker, hjournal⟩ := h
  exact ⟨broker, journal, rfl, hbroker, hjournal⟩

theorem Twin.dequeue (h : s.Twin t) (w : Task) : (s.dequeue w).Twin (t.dequeue w) := by
  obtain ⟨broker, journal, rfl, hbroker, hjournal⟩ := h
  exact ⟨broker, journal, rfl, hbroker, hjournal⟩

theorem Twin.clock (h : s.Twin t) (now : Nat) : { s with now }.Twin { t with now } := by
  obtain ⟨broker, journal, rfl, hbroker, hjournal⟩ := h
  exact ⟨broker, journal, rfl, hbroker, hjournal⟩

theorem Twin.begun (h : s.Twin t) : { s with journal := [] }.Twin { t with journal := [] } := by
  obtain ⟨broker, journal, rfl, hbroker, -⟩ := h
  exact ⟨broker, [], rfl, hbroker, rfl⟩

theorem Twin.log (h : s.Twin t) (level : LogLevel) (message : String)
    (fields : List (String × LogValue)) :
    (s.log level message fields).Twin (t.log level message fields) := by
  obtain ⟨broker, journal, rfl, hbroker, hjournal⟩ := h
  refine ⟨broker, _, rfl, hbroker, ?_⟩
  change Entry.plain (journal ++ [_]) = Entry.plain (s.journal ++ [_])
  rw [Entry.plain_append, Entry.plain_append, hjournal]
  rfl

theorem Twin.unrouted (h : s.Twin t) :
    { s with broker.postings := [] }.Twin { t with broker.postings := [] } := by
  obtain ⟨broker, journal, rfl, ⟨faults, inFlight, rfl, hplan⟩, hjournal⟩ := h
  exact ⟨_, journal, rfl, ⟨faults, inFlight, rfl, hplan⟩, hjournal⟩

theorem Twin.takeReturned (h : s.Twin t) (p : Parcel) :
    (s.takeReturned p).Twin (t.takeReturned p) := by
  obtain ⟨broker, journal, rfl, ⟨faults, inFlight, rfl, hplan⟩, hjournal⟩ := h
  exact ⟨_, journal, rfl, ⟨faults, inFlight, rfl, hplan⟩, hjournal⟩

theorem Twin.close (h : s.Twin t) (stream : Nat) : (s.close stream).Twin (t.close stream) := by
  have hsubs : t.subscriptions[stream]? = s.subscriptions[stream]? := by rw [h.subscriptions]
  have hclosed : { s with broker := s.broker.close stream }.Twin
      { t with broker := t.broker.close stream } := by
    obtain ⟨broker, journal, rfl, ⟨faults, inFlight, rfl, hplan⟩, hjournal⟩ := h
    exact ⟨_, journal, rfl, ⟨faults, inFlight, rfl, hplan⟩, hjournal⟩
  unfold Session.close
  rw [hsubs, h.isOpen]
  split
  · exact h
  · split
    · exact hclosed.log _ _ _
    · exact h

theorem Twin.callLedger (h : s.Twin t) (number : Nat) (id : String) (call : LedgerCall) :
    (t.callLedger number id call).1 = (s.callLedger number id call).1 ∧
      (s.callLedger number id call).2.Twin (t.callLedger number id call).2 := by
  obtain ⟨broker, journal, rfl, hbroker, hjournal⟩ := h
  cases call <;> exact ⟨rfl, broker, journal, rfl, hbroker, hjournal⟩

end

section
variable {s t : Session} (h : s.Twin t) (sub : Subscription)
include h

theorem Twin.handing (stream : Nat) (message : Message) (tag : Option Nat) :
    (s.handing stream message tag).Twin (t.handing stream message tag) := by
  obtain ⟨broker, journal, rfl, hbroker, hjournal⟩ := h
  exact ⟨_, journal, rfl, (hbroker.handOver stream message tag).2, hjournal⟩

theorem Twin.handed_eq (stream : Nat) (message : Message) (tag : Option Nat) :
    t.handed stream message tag = s.handed stream message tag := by
  unfold handed
  rw [(h.broker.handOver stream message tag).1]

/-- A delivery begins in the same way in both. -/
theorem Twin.accept (stream : Nat) (d : Delivery) :
    (t.accept sub stream d).1 = (s.accept sub stream d).1 ∧
      (s.accept sub stream d).2.Twin (t.accept sub stream d).2 := by
  obtain ⟨turn?, s₁, t₁, hs, ht, hdone⟩ := Twin.of_works (h.act
    ((Made.accept sub.consumer d).mono Chore.keeps_of_resolves) sub.ledger
    (some (s.broker.handedOver, d.tag)) sub.consumer.contract.handler)
  unfold Session.accept attend
  dsimp only
  rw [h.handedOver, hs, ht]
  cases turn? with
  | none => exact ⟨rfl, hdone⟩
  | some turn =>
    refine ⟨?_, hdone⟩
    unfold waitEnd
    dsimp only
    rw [hdone.now]

theorem Twin.arrive (stream : Nat) (message : Message) (tag : Option Nat) :
    (s.arrive sub stream message tag).Twin (t.arrive sub stream message tag) := by
  obtain ⟨turn?, s₁, t₁, hs, ht, hdone⟩ := Twin.of_works
    ((h.handing stream message tag).accept sub stream (s.handed stream message tag))
  unfold Session.arrive
  rw [h.handed_eq, hs, ht]
  cases turn? with
  | none => exact hdone
  | some turn => exact hdone.enqueue turn.2

theorem Twin.delay (w : Task) : (s.delay sub w).Twin (t.delay sub w) := by
  unfold Session.delay waitEnd
  rw [h.now]
  exact h.enqueue _

/-- An answer is acted on in the same way in both. -/
theorem Twin.conclude (w : Task) (id : String) (answer : Answer) :
    (t.conclude sub w id answer).1 = (s.conclude sub w id answer).1 ∧
      (s.conclude sub w id answer).2.Twin (t.conclude sub w id answer).2 := by
  obtain ⟨r, s₁, t₁, hs, ht, hdone⟩ := Twin.of_works ((h.dequeue w).act
    ((Made.conclude sub.consumer w.delivery id answer).mono Chore.keeps_of_resolves) sub.ledger
    (some (w.serial, w.delivery.tag)) sub.consumer.contract.handler)
  unfold Session.conclude attend
  rw [hs, ht]
  dsimp only
  refine ⟨rfl, ?_⟩
  split
  · exact hdone.delay sub w
  · exact hdone

/-- A message is given back in the same way in both, for each of the brokers has it in flight. -/
theorem Twin.giveBack (tagged : s.Tagged) (tagged' : t.Tagged) {w : Task} (hw : w ∈ s.tasks) :
    ((s.dequeue w).giveBack sub w).Twin ((t.dequeue w).giveBack sub w) := by
  have hw' : w ∈ t.tasks := h.tasks ▸ hw
  refine (h.dequeue w).act_of_desk _ _ (Consumer.giveBack_twin ((h.dequeue w).desk sub.ledger) ?_)
  exact (tagged'.parcels w hw').trans (tagged.parcels w hw).symm

end
end Session
end Courier
