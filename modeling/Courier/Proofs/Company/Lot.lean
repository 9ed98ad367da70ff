import Courier.Proofs.Account.Once
import Courier.Proofs.Retry.Course
import Mathlib.Logic.Function.Iterate

/-! What a message sees from its hand-over on, and what it would see if nobody but its handler, its
subscription and its own count had a part in it. -/
namespace Courier

/-- A request without the number of its delivery. -/
def Request.blurred : Request → Request
  | .ack _ multiple => .ack 0 multiple
  | .nack _ multiple requeue => .nack 0 multiple requeue
  | r => r

def Sight.blurred : Sight → Sight
  | .asked r ok => .asked r.blurred ok
  | x => x

/-- What is seen, and how long after the hand-over. -/
structure Glimpse where
  delay : Int
  sight : Sight

def Entry.glimpse? (start : Nat) (e : Entry) : Option Glimpse :=
  e.note.event.sight?.map fun x => ⟨e.time - start, x.blurred⟩

/-- When a message is handed over, if the record is about that. -/
def Record.start? (r : Record) : Option Nat :=
  r.deed.handed?.bind fun _ => r.entries.head?.map Entry.time

/-- One who watches a message: when it was handed over last, and what has been seen of it. -/
structure Watch where
  start : Nat := 0
  seen : List Glimpse := []

def Watch.next (w : Watch) (r : Record) : Watch where
  start := r.start?.getD w.start
  seen := w.seen ++ r.entries.filterMap (Entry.glimpse? (r.start?.getD w.start))

/-- Watches a message whose records these are. -/
def watch (g : List Record) : Watch := g.foldl Watch.next {}

theorem watch_append (g : List Record) (r : Record) : watch (g ++ [r]) = (watch g).next r :=
  List.foldl_append

/-- Where a message is. Of a handling it is known what the handler does, of a delay how long after
the hand-over it began. -/
inductive Phase where
  | coming
  | handling (turn : Turn)
  | delayed (elapsed : Nat)
  | back
  | ended

/-- How far a message has come: where it is, what its count is and what it has seen. -/
structure Lot where
  phase : Phase
  count : Option UInt32
  seen : List Glimpse

/-- What is seen when the answer to a delivery is acted on. -/
def Consumer.heard (k : Consumer) (d : Delivery) (id : String) (answer : Answer) (r : Resolution) :
    List Sight :=
  (.told id answer.failure? :: if r = .requeued then [] else k.ending d r true).filter
    k.contract.handler.sees

/-- The message as it would be in a delivery without a number. -/
def Message.unnumbered (m : Message) : Delivery := ⟨0, m⟩

/-- A message and a subscription that can read it. -/
structure Letter where
  sub : Subscription
  message : Message
  envelope : Envelope
  read : Envelope.decode sub.consumer.contract.payloadType message.body = .ok envelope

/-- What happens next to a message on its own. The handler's turns are given by how often the
message has been sent back. -/
def Lot.next (m : Letter) (turns : UInt32 → Turn) (l : Lot) : Lot :=
  let k := m.sub.consumer
  match l.phase with
  | .coming | .back =>
    { l with
      phase := .handling (turns (l.count.getD 0))
      seen := l.seen ++ [⟨0, .handled m.envelope.payload⟩] }
  | .handling turn =>
    let elapsed := min turn.wait longestWait
    let r := k.verdict (l.count.getD 0) turn.answer
    { phase := if r = .requeued then .delayed elapsed else .ended
      count := r.entered l.count
      seen := l.seen ++
        (k.heard m.message.unnumbered m.envelope.id turn.answer r).map (⟨elapsed, ·⟩) }
  | .delayed elapsed =>
    let elapsed := elapsed + min k.contract.retryInterval longestWait
    { l with
      phase := .back
      seen := l.seen ++ (k.ending m.message.unnumbered .requeued true).map (⟨elapsed, ·⟩) }
  | .ended => l

/-- The lot of a message on its own after `n` steps. -/
def fate (m : Letter) (turns : UInt32 → Turn) (first : Option UInt32) (n : ℕ) : Lot :=
  (Lot.next m turns)^[n] ⟨.coming, first, []⟩

section
variable {m : Letter} {turns : UInt32 → Turn} {first : Option UInt32} {n n' : ℕ}

theorem fate_succ : fate m turns first (n + 1) = (fate m turns first n).next m turns :=
  Function.iterate_succ_apply' _ _ _

namespace Lot
variable {l : Lot}

theorem next_handed (h : l.phase = .coming ∨ l.phase = .back) :
    l.next m turns = ⟨.handling (turns (l.count.getD 0)), l.count,
      l.seen ++ [⟨0, .handled m.envelope.payload⟩]⟩ := by
  unfold next
  rcases h with h | h <;> rw [h]

theorem next_concluded {turn : Turn} {r : Resolution} (h : l.phase = .handling turn)
    (hr : m.sub.consumer.verdict (l.count.getD 0) turn.answer = r) :
    l.next m turns =
      ⟨if r = .requeued then .delayed (min turn.wait longestWait) else .ended, r.entered l.count,
        l.seen ++ (m.sub.consumer.heard m.message.unnumbered m.envelope.id turn.answer r).map
          (⟨(min turn.wait longestWait : ℕ), ·⟩)⟩ := by
  unfold next
  rw [h, ← hr]

theorem next_givenBack {elapsed : Nat} (h : l.phase = .delayed elapsed) :
    l.next m turns = ⟨.back, l.count,
      l.seen ++ (m.sub.consumer.ending m.message.unnumbered .requeued true).map
        (⟨(elapsed + min m.sub.consumer.contract.retryInterval longestWait : ℕ), ·⟩)⟩ := by
  unfold next
  rw [h]

end Lot

/-- A message that has arrived is not awaited any more. -/
theorem fate_phase_ne_coming : (fate m turns first (n + 1)).phase ≠ .coming := by
  rw [fate_succ]
  unfold Lot.next
  split
  · exact Phase.noConfusion
  · exact Phase.noConfusion
  · dsimp only
    split <;> exact Phase.noConfusion
  · exact Phase.noConfusion
  · next h =>
    rw [h]
    exact Phase.noConfusion

theorem Lot.seen_next (l : Lot) : l.seen <+: (l.next m turns).seen := by
  unfold next
  split
  · exact List.prefix_append _ _
  · exact List.prefix_append _ _
  · exact List.prefix_append _ _
  · exact List.prefix_append _ _
  · exact List.prefix_rfl

/-- What has been seen stays seen. -/
theorem fate_seen_prefix (h : n ≤ n') :
    (fate m turns first n).seen <+: (fate m turns first n').seen := by
  induction h with
  | refl => exact List.prefix_rfl
  | step _ ih =>
    rw [fate_succ]
    exact ih.trans (Lot.seen_next _)

end

theorem Handler.sees_blurred (h : Handler) (sights : List Sight) :
    (sights.filter h.sees).map Sight.blurred = (sights.map Sight.blurred).filter h.sees := by
  have hsees : h.sees ∘ Sight.blurred = h.sees := funext fun x => by cases x <;> rfl
  rw [List.filter_map, hsees]

theorem Resolution.blurred_request (r : Resolution) (tag : Nat) :
    (r.request tag).blurred = r.request 0 := by
  cases r <;> rfl

namespace Consumer
variable (k : Consumer) (d : Delivery)

theorem ending_blurred (r : Resolution) (ok : Bool) :
    (k.ending d r ok).map Sight.blurred = k.ending d.message.unnumbered r ok := by
  unfold ending
  cases k.contract.autoAck
  · exact congrArg (fun q => [Sight.asked q ok, .resolved r]) (r.blurred_request d.tag)
  · rfl

theorem heard_blurred (id : String) (answer : Answer) (r : Resolution) :
    (k.heard d id answer r).map Sight.blurred = k.heard d.message.unnumbered id answer r := by
  unfold heard
  rw [Handler.sees_blurred, List.map_cons, apply_ite (List.map Sight.blurred), ending_blurred]
  rfl

/-- A granted request is the one that is seen. -/
theorem heard_of_grants {b : Broker} (h : b.Grants .ack) (id : String) (answer : Answer)
    (r : Resolution) :
    (.told id answer.failure? :: (b.shows (k.ackOf? d r) ++ r.seenAtOnce)).filter
      k.contract.handler.sees = k.heard d id answer r := by
  have hcall := Broker.call_of_grants (r := .ack d.tag false) h
  unfold heard
  by_cases hr : r = .requeued
  · subst hr
    rw [if_pos rfl, k.ackOf?_requeued]
    rfl
  · have hend := k.ending_of_ackOf? d hr b
    rw [hcall] at hend
    rw [if_neg hr, Resolution.seenAtOnce, if_neg hr, hend]
    rfl

end Consumer

namespace Session
variable {s s' : Session} {serial tag : Nat} {sights : List Sight}

/-- What a move shows of a delivery that was handed over at `start`. -/
theorem Tells.glimpses (h : s.Tells s' serial tag sights) (start : Nat) :
    (s.since s').filterMap (Entry.glimpse? start) =
      (sights.map Sight.blurred).map (⟨(s.now : Int) - start, ·⟩) := by
  rw [← h.sights, Entry.sights, List.map_filterMap, List.map_filterMap]
  refine List.filterMap_congr fun e he => ?_
  unfold Entry.glimpse?
  rw [(h.about e he).1, Option.map_map]
  rfl

/-- A move that shows something tells the time. -/
theorem Tells.time (h : s.Tells s' serial tag sights) (hne : sights ≠ []) :
    (s.since s').head?.map Entry.time = some s.now := by
  cases hs : s.since s' with
  | nil =>
    have hnone := h.sights
    rw [hs] at hnone
    exact absurd hnone.symm hne
  | cons e rest =>
    have he := (h.about e (by rw [hs]; exact List.mem_cons_self)).1
    exact congrArg some he

/-- A move after which a message's delivery goes on as before. -/
theorem Tells.next (h : s.Tells s' serial tag sights) {d : Deed} (hd : d.handed? = none)
    (w : Watch) : w.next ⟨d, s.since s'⟩ =
      ⟨w.start, w.seen ++ (sights.map Sight.blurred).map (⟨(s.now : Int) - w.start, ·⟩)⟩ := by
  have hstart : Record.start? ⟨d, s.since s'⟩ = none := by
    unfold Record.start?
    rw [hd]
    rfl
  unfold Watch.next
  rw [hstart, Option.getD_none, h.glimpses]

/-- A hand-over begins a new account of the time. -/
theorem Tells.next_handed (h : s.Tells s' serial tag sights) {d : Deed} {what : Nat × Message}
    (hd : d.handed? = some what) (hne : sights ≠ []) (w : Watch) : w.next ⟨d, s.since s'⟩ =
      ⟨s.now, w.seen ++ (sights.map Sight.blurred).map (⟨0, ·⟩)⟩ := by
  have hstart : Record.start? ⟨d, s.since s'⟩ = some s.now := by
    unfold Record.start?
    rw [hd]
    exact h.time hne
  unfold Watch.next
  rw [hstart, Option.getD_some, h.glimpses, Int.sub_self]

/-- A message that cannot be read is dealt with at once. -/
theorem Move.tells_unread {sub : Subscription} {stream : Nat} {d : Delivery} {e : EnvelopeError}
    (m : Move s (.arrived sub stream d) s') (acks : s.broker.Grants .ack)
    (unread : Envelope.decode sub.consumer.contract.payloadType d.message.body = .error e) :
    s.Tells s' (s.broker.handedOver + 1) d.tag
      ((.told "" (some e.message) :: sub.consumer.ending d .poisoned true).filter
        sub.consumer.contract.handler.sees) := by
  cases m with
  | arrive message tag =>
    have htells := arrive_error_tells s sub stream message tag unread
    have hcall := Broker.call_of_grants (b := (s.handing stream message tag).broker)
      (r := .ack (s.handed stream message tag).tag false) acks
    rw [sub.consumer.ending_of_ackOf? _ (by decide), hcall] at htells
    exact htells

end Session
end Courier
