import Courier.Proofs.Delivery
import Courier.Session.Clock

/-! What a session is like after a delivery has begun, has been concluded or has been given back. -/
namespace Courier

/-- The requests that entries tell of, each with whether it succeeded. -/
def Entry.requests (entries : List Entry) : List (Request × Bool) :=
  entries.filterMap (·.note.event.request?)

/-- The payloads whose handling begins in entries. -/
def Entry.handlings (entries : List Entry) : List Payload :=
  entries.filterMap (·.note.event.handling?)

theorem Entry.filterMap_heard {β : Type} (f : Event → Option β) (h : Handler) (time : Nat)
    (delivery : Option (Nat × Nat)) (hf : ∀ e, h.hears e = false → f e = none)
    (notes : List Note) :
    ((notes.filter fun n => h.hears n.event).map fun n => (⟨time, delivery, n⟩ : Entry)).filterMap
      (fun e => f e.note.event) = notes.filterMap (fun n => f n.event) := by
  rw [List.filterMap_map, List.filterMap_filter]
  congr 1
  funext n
  cases hn : h.hears n.event with
  | false => simp [hf n.event hn]
  | true => simp

theorem Entry.requests_heard (h : Handler) (time : Nat) (delivery : Option (Nat × Nat))
    (notes : List Note) :
    Entry.requests ((notes.filter fun n => h.hears n.event).map fun n => ⟨time, delivery, n⟩) =
      notes.filterMap (·.event.request?) := by
  refine Entry.filterMap_heard Event.request? h time delivery ?_ notes
  intro e he
  cases e <;> first | rfl | cases he

theorem Entry.handlings_heard (h : Handler) (time : Nat) (delivery : Option (Nat × Nat))
    (notes : List Note) :
    Entry.handlings ((notes.filter fun n => h.hears n.event).map fun n => ⟨time, delivery, n⟩) =
      notes.filterMap (·.event.handling?) := by
  refine Entry.filterMap_heard Event.handling? h time delivery ?_ notes
  intro e he
  cases e <;> first | rfl | cases he

namespace Session

/-- The entries that the journal has got since an earlier time. -/
def since (s s' : Session) : List Entry := s'.journal.drop s.journal.length

theorem since_eq {s s' : Session} {new : List Entry} (h : s'.journal = s.journal ++ new) :
    s.since s' = new := by
  unfold since
  rw [h, List.drop_left]

theorem since_trans {s s' s'' : Session} (h : s.journal <+: s'.journal)
    (h' : s'.journal <+: s''.journal) : s.since s'' = s.since s' ++ s'.since s'' := by
  obtain ⟨new, hnew⟩ := h
  obtain ⟨more, hmore⟩ := h'
  have hall : s''.journal = s.journal ++ (new ++ more) := by
    rw [← hmore, ← hnew, List.append_assoc]
  rw [since_eq hnew.symm, since_eq hmore.symm, since_eq hall]

theorem ledger_set_self (s : Session) {number : Nat} (l : Ledger)
    (h : number < s.ledgers.length) :
    { s with ledgers := s.ledgers.set number l }.ledger number = l := by
  unfold ledger
  rw [List.getD_eq_getElem?_getD, List.getElem?_set_self h, Option.getD_some]

theorem ledger_set_of_ne (s : Session) {number n : Nat} (l : Ledger) (h : number ≠ n) :
    { s with ledgers := s.ledgers.set number l }.ledger n = s.ledger n := by
  unfold ledger
  rw [List.getD_eq_getElem?_getD, List.getElem?_set_ne h, ← List.getD_eq_getElem?_getD]

theorem set_ledger (s : Session) (number : Nat) :
    s.ledgers.set number (s.ledger number) = s.ledgers := by
  unfold ledger
  rw [List.getD_eq_getElem?_getD]
  by_cases h : number < s.ledgers.length
  · rw [List.getElem?_eq_getElem h, Option.getD_some, List.set_getElem_self]
  · rw [List.set_eq_of_length_le (by omega)]

/-- What becomes of a session by work on one delivery. -/
structure Effect (s s' : Session) (broker : Broker) (ledgers : List Ledger) (tasks : List Task)
    (requests : List (Request × Bool)) (handled : List Payload) : Prop where
  subscriptions : s'.subscriptions = s.subscriptions
  broker : s'.broker = broker
  ledgers : s'.ledgers = ledgers
  tasks : s'.tasks = tasks
  requests : Entry.requests (s.since s') = requests
  handlings : Entry.handlings (s.since s') = handled

/-- Work at a desk is work on the session with that desk. -/
theorem attend_effect {α : Type} (s : Session) (sub : Subscription) (serial tag : Nat)
    (work : StateM Desk α) {l : Ledger} {r : Option Request} {handled : List Payload}
    (h : (s.desk sub.ledger).Effect (work.run (s.desk sub.ledger)).2 l r handled) :
    s.Effect (s.attend sub serial tag work).2 (s.broker.served r) (s.ledgers.set sub.ledger l)
      s.tasks (s.broker.replies r) handled := by
  obtain ⟨hl, hb, hr, hh⟩ := h
  have hs : s.since (s.attend sub serial tag work).2 = _ := since_eq rfl
  refine ⟨rfl, hb, congrArg (s.ledgers.set sub.ledger) hl, rfl, ?_, ?_⟩
  · rw [hs, Entry.requests_heard]
    exact hr
  · rw [hs, Entry.handlings_heard]
    exact hh

section Accept
variable (s : Session) (sub : Subscription) (stream : Nat) (d : Delivery)

theorem accept_error {e : EnvelopeError}
    (h : Envelope.decode sub.consumer.contract.payloadType d.message.body = .error e) :
    (s.accept sub stream d).1 = none ∧
      s.Effect (s.accept sub stream d).2 (s.broker.served (sub.consumer.ackOf? d .poisoned))
        s.ledgers s.tasks (s.broker.replies (sub.consumer.ackOf? d .poisoned)) [] := by
  obtain ⟨ha, he⟩ := Consumer.accept_error sub.consumer d (s.desk sub.ledger) h
  have heff := attend_effect s sub s.broker.handedOver d.tag _ he
  have hl : s.ledgers.set sub.ledger (s.desk sub.ledger).ledger = s.ledgers := set_ledger s _
  rw [hl] at heff
  change (s.attend sub s.broker.handedOver d.tag (sub.consumer.accept d)).1 = none at ha
  unfold accept
  dsimp only
  generalize s.attend sub s.broker.handedOver d.tag (sub.consumer.accept d) = result at ha heff ⊢
  obtain ⟨a, s'⟩ := result
  subst ha
  exact ⟨rfl, heff⟩

/-- The delivery of a payload while its handler has its turn. -/
def handlingTask (e : Envelope) : Task :=
  let turn := sub.consumer.turn (s.desk sub.ledger) e.payload
  ⟨s.broker.handedOver, stream, d, s.waitEnd turn.wait, .handling e.id turn.answer⟩

theorem accept_ok {e : Envelope}
    (h : Envelope.decode sub.consumer.contract.payloadType d.message.body = .ok e) :
    (s.accept sub stream d).1 = some ((sub.consumer.turn (s.desk sub.ledger) e.payload).wait,
        s.handlingTask sub stream d e) ∧
      s.Effect (s.accept sub stream d).2 s.broker s.ledgers s.tasks [] [e.payload] := by
  obtain ⟨ha, he⟩ := Consumer.accept_ok sub.consumer d (s.desk sub.ledger) h
  have heff := attend_effect s sub s.broker.handedOver d.tag _ he
  have hl : s.ledgers.set sub.ledger (s.desk sub.ledger).ledger = s.ledgers := set_ledger s _
  rw [hl] at heff
  have hnow : (s.attend sub s.broker.handedOver d.tag (sub.consumer.accept d)).2.now = s.now := rfl
  change (s.attend sub s.broker.handedOver d.tag (sub.consumer.accept d)).1 = _ at ha
  unfold accept
  dsimp only
  generalize s.attend sub s.broker.handedOver d.tag (sub.consumer.accept d) = result
    at ha heff hnow ⊢
  obtain ⟨a, s'⟩ := result
  subst ha
  refine ⟨?_, heff⟩
  unfold handlingTask waitEnd
  dsimp only at hnow ⊢
  rw [hnow]

end Accept

section Moves
variable (s : Session) (sub : Subscription) (stream : Nat) (message : Message) (tag : Option Nat)

/-- The delivery of a message that is handed to a stream. -/
def handed : Delivery := ⟨(s.broker.handOver stream message tag).1, message⟩

/-- The session when the broker has handed a message to a stream. -/
def handing : Session := { s with broker := (s.broker.handOver stream message tag).2 }

/-- Begins a delivery of a message to a stream; the delivery waits for its handler, however short
its turn is. -/
def arrive : Session :=
  match (s.handing stream message tag).accept sub stream (s.handed stream message tag) with
  | (none, s) => s
  | (some (_, t), s) => s.enqueue t

theorem arrive_error {e : EnvelopeError}
    (h : Envelope.decode sub.consumer.contract.payloadType message.body = .error e) :
    s.Effect (s.arrive sub stream message tag)
      ((s.handing stream message tag).broker.served
        (sub.consumer.ackOf? (s.handed stream message tag) .poisoned))
      s.ledgers s.tasks
      ((s.handing stream message tag).broker.replies
        (sub.consumer.ackOf? (s.handed stream message tag) .poisoned)) [] := by
  obtain ⟨ha, he⟩ := accept_error (s.handing stream message tag) sub stream
    (s.handed stream message tag) h
  unfold arrive
  generalize (s.handing stream message tag).accept sub stream (s.handed stream message tag) = result
    at ha he ⊢
  obtain ⟨a, s'⟩ := result
  subst ha
  exact ⟨he.subscriptions, he.broker, he.ledgers, he.tasks, he.requests, he.handlings⟩

theorem arrive_ok {e : Envelope}
    (h : Envelope.decode sub.consumer.contract.payloadType message.body = .ok e) :
    s.Effect (s.arrive sub stream message tag) (s.handing stream message tag).broker s.ledgers
      (s.tasks ++ [(s.handing stream message tag).handlingTask sub stream
        (s.handed stream message tag) e]) [] [e.payload] := by
  obtain ⟨ha, he⟩ := accept_ok (s.handing stream message tag) sub stream
    (s.handed stream message tag) h
  unfold arrive
  generalize (s.handing stream message tag).accept sub stream (s.handed stream message tag) = result
    at ha he ⊢
  obtain ⟨a, s'⟩ := result
  subst ha
  exact ⟨he.subscriptions, he.broker, he.ledgers, congrArg (· ++ [_]) he.tasks, he.requests,
    he.handlings⟩

end Moves

section Conclude
variable (s : Session) (sub : Subscription) (t : Task)

/-- Acts on the answer that a waiting delivery has got, and gives the resolution. If the message is
to be sent back the delivery waits for that, however short the delay is. -/
def conclude (id : String) (answer : Answer) : Resolution × Session :=
  let (resolution, s) := (s.dequeue t).attend sub t.serial t.delivery.tag
    (sub.consumer.conclude t.delivery id answer)
  (resolution, if resolution = .requeued then s.delay sub t else s)

/-- A delivery while its message waits to be sent back. -/
def delayedTask : Task :=
  { t with due := s.waitEnd sub.consumer.contract.retryInterval, stage := .delayed }

/-- What an answer to a delivery leads to. -/
def verdict (id : String) (answer : Answer) : Resolution :=
  sub.consumer.verdict ((s.ledger sub.ledger).get id) answer

theorem conclude_effect (id : String) (answer : Answer) :
    (s.conclude sub t id answer).1 = s.verdict sub id answer ∧
      s.Effect (s.conclude sub t id answer).2
        (s.broker.served (sub.consumer.ackOf? t.delivery (s.verdict sub id answer)))
        (s.ledgers.set sub.ledger
          ((s.ledger sub.ledger).resolve id (s.verdict sub id answer)))
        (s.tasks.filter (·.serial ≠ t.serial) ++
          if s.verdict sub id answer = .requeued then [s.delayedTask sub t] else [])
        (s.broker.replies (sub.consumer.ackOf? t.delivery (s.verdict sub id answer))) [] := by
  obtain ⟨hv, he⟩ :=
    Consumer.conclude_effect sub.consumer t.delivery id ((s.dequeue t).desk sub.ledger) answer
  change (s.dequeue t |>.desk sub.ledger).Effect _
    ((s.ledger sub.ledger).resolve id (s.verdict sub id answer))
    (sub.consumer.ackOf? t.delivery (s.verdict sub id answer)) [] at he
  have heff := attend_effect (s.dequeue t) sub t.serial t.delivery.tag _ he
  have hnow : ((s.dequeue t).attend sub t.serial t.delivery.tag
      (sub.consumer.conclude t.delivery id answer)).2.now = s.now := rfl
  change ((s.dequeue t).attend sub t.serial t.delivery.tag
    (sub.consumer.conclude t.delivery id answer)).1 = s.verdict sub id answer at hv
  unfold conclude
  generalize (s.dequeue t).attend sub t.serial t.delivery.tag
    (sub.consumer.conclude t.delivery id answer) = result at hv heff hnow ⊢
  obtain ⟨r, s'⟩ := result
  dsimp only at hv heff hnow ⊢
  subst hv
  obtain ⟨hsubs, hb, hl, ht, hr, hh⟩ := heff
  refine ⟨rfl, ?_⟩
  by_cases hq : s.verdict sub id answer = .requeued
  · have htask : s'.delayedTask sub t = s.delayedTask sub t := by
      unfold delayedTask waitEnd
      rw [hnow]
    rw [if_pos hq, if_pos hq]
    refine ⟨hsubs, hb, hl, ?_, hr, hh⟩
    change s'.tasks ++ [s'.delayedTask sub t] = _
    rw [ht, htask]
    rfl
  · rw [if_neg hq, if_neg hq, List.append_nil]
    exact ⟨hsubs, hb, hl, ht, hr, hh⟩

theorem conclude_now (id : String) (answer : Answer) :
    (s.conclude sub t id answer).2.now = s.now := by
  unfold conclude
  dsimp only
  split <;> rfl

theorem giveBack_effect :
    s.Effect ((s.dequeue t).giveBack sub t)
      (s.broker.served (some (.nack t.delivery.tag false true))) s.ledgers
      (s.tasks.filter (·.serial ≠ t.serial))
      (s.broker.replies (some (.nack t.delivery.tag false true))) [] := by
  have he := Consumer.giveBack_effect t.delivery ((s.dequeue t).desk sub.ledger)
  have heff := attend_effect (s.dequeue t) sub t.serial t.delivery.tag _ he
  have hl : (s.dequeue t).ledgers.set sub.ledger ((s.dequeue t).desk sub.ledger).ledger =
    s.ledgers := set_ledger s _
  rw [hl] at heff
  exact ⟨heff.subscriptions, heff.broker, heff.ledgers, heff.tasks, heff.requests, heff.handlings⟩

theorem conclude_apart (id : String) (answer : Answer) :
    Broker.Apart t.delivery.tag s.broker (s.conclude sub t id answer).2.broker := by
  rw [(conclude_effect s sub t id answer).2.broker]
  exact Consumer.apart_ackOf? _ _ _ _

theorem conclude_returned (id : String) (answer : Answer) :
    (s.conclude sub t id answer).2.broker.returned = s.broker.returned := by
  rw [(conclude_effect s sub t id answer).2.broker]
  exact Consumer.returned_ackOf? _ _ _ _

/-- A delivery that waits after a conclusion waited before, or waits to be sent back. -/
theorem mem_conclude_tasks {id : String} {answer : Answer} {t' : Task}
    (ht' : t' ∈ (s.conclude sub t id answer).2.tasks) :
    t' ∈ (s.dequeue t).tasks ∨ t' = s.delayedTask sub t := by
  rw [(conclude_effect s sub t id answer).2.tasks] at ht'
  rcases List.mem_append.mp ht' with ht' | ht'
  · exact Or.inl ht'
  · split at ht'
    · exact Or.inr (List.mem_singleton.mp ht')
    · cases ht'

theorem giveBack_apart :
    Broker.Apart t.delivery.tag s.broker ((s.dequeue t).giveBack sub t).broker := by
  rw [(giveBack_effect s sub t).broker]
  exact s.broker.apart_call_nack t.delivery.tag

end Conclude

end Session
end Courier
