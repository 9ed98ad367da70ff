import Courier.Proofs.Session.Pending

/-! The course of one message on a stream. It is handled; if it is sent back it waits for its delay,
is given back and handed over again; and in the end it is resolved. -/
namespace Courier

/-- A message has this id. -/
def Subscription.reads (sub : Subscription) (id : String) (m : Message) : Bool :=
  sub.idOf? m = some id

/-- A delivery of one of the messages `P` on a stream arrives, is concluded or given back. -/
def Deed.isAbout (stream : Nat) (P : Message → Bool) : Deed → Bool
  | .arrived _ n d | .returned _ n d | .concluded _ n d _ _ _ | .gaveBack _ n d =>
    n = stream && P d.message
  | _ => false

/-- One of the messages `P` arrives at a stream from outside. -/
def Deed.isArrival (stream : Nat) (P : Message → Bool) : Deed → Bool
  | .arrived _ n d => n = stream && P d.message
  | _ => false

/-- Where a message is. -/
inductive Place where
  | nowhere
  | handling (d : Delivery)
  | delayed (d : Delivery)
  | back
  | resolved

/-- How a message gets from place to place, with what is entered into the journal meanwhile. -/
inductive Leg (sub : Subscription) (stream : Nat) (id : String) : Place → Record → Place → Prop
  | arrive {d entries} {payload : Payload} (hr : Entry.requests entries = [])
      (hh : Entry.handlings entries = [payload]) :
      Leg sub stream id .nowhere ⟨.arrived sub stream d, entries⟩ (.handling d)
  | sendBack {d answer entries} (hf : answer.fails = true) (hr : Entry.requests entries = [])
      (hh : Entry.handlings entries = []) :
      Leg sub stream id (.handling d) ⟨.concluded sub stream d id answer .requeued, entries⟩
        (.delayed d)
  | giveBack {d entries} (hr : Entry.requests entries = [(.nack d.tag false true, true)])
      (hh : Entry.handlings entries = []) :
      Leg sub stream id (.delayed d) ⟨.gaveBack sub stream d, entries⟩ .back
  | again {d entries} {payload : Payload} (hr : Entry.requests entries = [])
      (hh : Entry.handlings entries = [payload]) :
      Leg sub stream id .back ⟨.returned sub stream d, entries⟩ (.handling d)
  | resolve {d answer r entries} (hn : r ≠ .requeued) (hl : r ≠ .lost)
      (hr : Entry.requests entries = [(.ack d.tag false, true)])
      (hh : Entry.handlings entries = []) :
      Leg sub stream id (.handling d) ⟨.concluded sub stream d id answer r, entries⟩ .resolved

/-- The way of a message up to a place. -/
inductive Course (sub : Subscription) (stream : Nat) (id : String) : List Record → Place → Prop
  | start : Course sub stream id [] .nowhere
  | next {g place r place'} (course : Course sub stream id g place)
      (leg : Leg sub stream id place r place') : Course sub stream id (g ++ [r]) place'

namespace Session

/-- The deliveries under way of the messages `P` on a stream. -/
def underWay (s : Session) (stream : Nat) (P : Message → Bool) : List Task :=
  s.tasks.filter fun t => t.stream = stream && P t.delivery.message

/-- The messages `P` that are to be handed over to a stream again. -/
def comingBack (s : Session) (stream : Nat) (P : Message → Bool) : List Parcel :=
  s.broker.returned.filter fun p => p.stream = stream && P p.message

/-- None of the messages `P` on a stream is under way or comes back. -/
def Done (s : Session) (stream : Nat) (P : Message → Bool) : Prop :=
  s.underWay stream P = [] ∧ s.comingBack stream P = []

/-- A subscription with an open stream, and a broker that does what it is asked for. -/
structure Serving (s : Session) (sub : Subscription) (stream : Nat) : Prop where
  sound : s.Sound
  tagged : s.Tagged
  acks : s.broker.Grants .ack
  nacks : s.broker.Grants .nack
  redelivers : s.broker.redelivers = true
  known : s.subscriptions[stream]? = some sub
  isOpen : s.broker.isOpen stream = true

/-- A manual-ack subscription with an open stream, and a broker that does what it is asked for. -/
structure Steady (s : Session) (sub : Subscription) (stream : Nat) : Prop
    extends s.Serving sub stream where
  manual : sub.consumer.contract.autoAck = false

theorem Serving.move {s s' : Session} {sub : Subscription} {stream : Nat} {d : Deed}
    (h : s.Serving sub stream) (m : Move s d s') (fresh : s.FreshTag d) (hc : d ≠ .closed stream) :
    s'.Serving sub stream where
  sound := h.sound.move m
  tagged := h.tagged.move m fresh
  acks := m.grants (Or.inl rfl) h.acks
  nacks := m.grants (Or.inr rfl) h.nacks
  redelivers := m.redelivers.trans h.redelivers
  known := getElem?_of_prefix m.subscriptions_prefix h.known
  isOpen := m.isOpen hc h.isOpen

theorem Steady.move {s s' : Session} {sub : Subscription} {stream : Nat} {d : Deed}
    (h : s.Steady sub stream) (m : Move s d s') (fresh : s.FreshTag d) (hc : d ≠ .closed stream) :
    s'.Steady sub stream :=
  ⟨h.toServing.move m fresh hc, h.manual⟩

/-- Where a message arrives its subscription is served, if the broker did what it is asked for at
first. -/
theorem Serving.of_arrival {s₀ s s' : Session} {h : List Record} {sub : Subscription} {stream : Nat}
    {dl : Delivery} (fresh : s₀.Fresh) (run : Run FreshTag s₀ h s)
    (redelivers : s₀.broker.redelivers = true) (acks : s₀.broker.Grants .ack)
    (nacks : s₀.broker.Grants .nack) (m : Move s (.arrived sub stream dl) s') :
    s.Serving sub stream where
  sound := run.sound fresh.sound
  tagged := run.tagged (fun _ _ ok => ok) fresh.tagged
  acks := run.keeps (P := fun s => s.broker.Grants .ack) (fun h _ m => m.grants (Or.inl rfl) h) acks
  nacks := run.keeps (P := fun s => s.broker.Grants .nack) (fun h _ m => m.grants (Or.inr rfl) h)
    nacks
  redelivers := run.keeps (P := fun s => s.broker.redelivers = true)
    (fun h _ m => m.redelivers.trans h) redelivers
  known := m.arrived_at.1
  isOpen := m.arrived_at.2

theorem Serving.sub_eq {s : Session} {sub : Subscription} {stream : Nat} (h : s.Serving sub stream)
    {n : Nat} {sub' : Subscription} (hsub : s.subscriptions[n]? = some sub') (hn : n = stream) :
    sub' = sub := by
  rw [hn, h.known] at hsub
  exact (Option.some.inj hsub).symm

end Session

/-- One message `id`, and no other of that id on the stream, is at a place. -/
def Place.Holds (s : Session) (sub : Subscription) (stream : Nat) (id : String) : Place → Prop
  | .nowhere | .resolved => s.Done stream (sub.reads id)
  | .handling d => ∃ t answer, s.underWay stream (sub.reads id) = [t] ∧ t.delivery = d ∧
    t.stage = .handling id answer ∧ s.comingBack stream (sub.reads id) = []
  | .delayed d => ∃ t, s.underWay stream (sub.reads id) = [t] ∧ t.delivery = d ∧
    t.stage = .delayed ∧ s.comingBack stream (sub.reads id) = []
  | .back => s.underWay stream (sub.reads id) = [] ∧
    ∃ p, s.comingBack stream (sub.reads id) = [p]

theorem Subscription.reads_iff {sub : Subscription} {id : String} {m : Message} :
    sub.reads id m = true ↔ ∃ e, Envelope.decode sub.consumer.contract.payloadType m.body = .ok e ∧
      e.id = id := by
  unfold reads idOf?
  cases Envelope.decode sub.consumer.contract.payloadType m.body <;> simp

theorem Place.Holds.same {s s' : Session} {sub : Subscription} {stream : Nat} {id : String}
    {place : Place} (h : place.Holds s sub stream id)
    (hu : s'.underWay stream (sub.reads id) = s.underWay stream (sub.reads id))
    (hc : s'.comingBack stream (sub.reads id) = s.comingBack stream (sub.reads id)) :
    place.Holds s' sub stream id := by
  unfold Place.Holds Session.Done at h ⊢
  rw [hu, hc]
  exact h

namespace Session

section
variable {s s' : Session} {stream : Nat} {P : Message → Bool}

theorem underWay_append {ts : List Task} (h : s'.tasks = s.tasks ++ ts) :
    s'.underWay stream P =
      s.underWay stream P ++ ts.filter fun t => t.stream = stream && P t.delivery.message := by
  unfold underWay
  rw [h, List.filter_append]

theorem comingBack_append {ps : List Parcel} (h : s'.broker.returned = s.broker.returned ++ ps) :
    s'.comingBack stream P =
      s.comingBack stream P ++ ps.filter fun p => p.stream = stream && P p.message := by
  unfold comingBack
  rw [h, List.filter_append]

/-- A delivery that is taken out is missing only where it was. -/
theorem underWay_dequeue (hs : s.Sound) {t : Task} (ht : t ∈ s.tasks) :
    (s.dequeue t).underWay stream P = (s.underWay stream P).filter fun t' => t' ≠ t := by
  unfold underWay dequeue
  rw [List.filter_filter, List.filter_filter]
  apply List.filter_congr
  intro t' ht'
  have : (t'.serial ≠ t.serial) ↔ t' ≠ t := by
    constructor
    · intro h e
      exact h (congrArg _ e)
    · intro h e
      exact h (List.inj_on_of_nodup_map hs.serials ht' ht e)
  simp [this, Bool.and_comm]

theorem underWay_dequeue_of_not (hs : s.Sound) {t : Task} (ht : t ∈ s.tasks)
    (h : (t.stream = stream && P t.delivery.message) = false) :
    (s.dequeue t).underWay stream P = s.underWay stream P := by
  rw [underWay_dequeue hs ht, List.filter_eq_self]
  intro t' ht'
  have hP := (List.mem_filter.mp ht').2
  have : t' ≠ t := by
    intro e
    rw [e, h] at hP
    cases hP
  simp [this]

theorem mem_underWay {t : Task} (ht : t ∈ s.tasks)
    (h : (t.stream = stream && P t.delivery.message) = true) : t ∈ s.underWay stream P :=
  List.mem_filter.mpr ⟨ht, h⟩

theorem mem_comingBack {p : Parcel} (hp : p ∈ s.broker.returned)
    (h : (p.stream = stream && P p.message) = true) : p ∈ s.comingBack stream P :=
  List.mem_filter.mpr ⟨hp, h⟩

theorem comingBack_takeReturned {p : Parcel} :
    (s.takeReturned p).comingBack stream P = (s.comingBack stream P).erase p := by
  unfold comingBack
  exact (List.erase_filter ..).symm

end

section
variable {s : Session} {sub : Subscription} {stream : Nat} {id : String}

theorem arrive_other {P : Message → Bool} (sub' : Subscription) {stream' : Nat} {message : Message}
    (tag : Option Nat) (h : (stream' = stream && P message) = false) :
    (s.arrive sub' stream' message tag).underWay stream P = s.underWay stream P ∧
      (s.arrive sub' stream' message tag).comingBack stream P = s.comingBack stream P := by
  constructor
  · rcases arrive_tasks s sub' stream' message tag with ⟨ht, -⟩ | ⟨t, _, _, ht, -, -, hs, hd, -⟩
    · unfold underWay
      rw [ht]
    · have hm : t.delivery.message = message := by rw [hd]; rfl
      rw [underWay_append ht, List.filter_cons_of_neg]
      · simp
      · rw [hs, hm, h]
        simp
  · unfold comingBack
    rw [(arrive_broker s sub' stream' message tag).2]

/-- A message that arrives is under way. -/
theorem arrive_underWay {e : Envelope} {message : Message} (tag : Option Nat)
    (hd : Envelope.decode sub.consumer.contract.payloadType message.body = .ok e)
    (hu : s.underWay stream (sub.reads e.id) = []) :
    (s.arrive sub stream message tag).underWay stream (sub.reads e.id) =
        [(s.handing stream message tag).handlingTask sub stream (s.handed stream message tag) e] ∧
      (s.arrive sub stream message tag).comingBack stream (sub.reads e.id) =
        s.comingBack stream (sub.reads e.id) := by
  constructor
  · rw [underWay_append (arrive_ok s sub stream message tag hd).tasks, hu, List.nil_append,
      List.filter_singleton]
    change (bif decide (stream = stream) && sub.reads e.id message then _ else _) = _
    rw [Subscription.reads_iff.mpr ⟨e, hd, rfl⟩, decide_eq_true rfl]
    rfl
  · unfold comingBack
    rw [(arrive_broker s sub stream message tag).2]

/-- A message that arrives is handled. -/
theorem arrive_own {message : Message} (tag : Option Nat) (h : sub.reads id message = true)
    (hu : s.underWay stream (sub.reads id) = []) (hc : s.comingBack stream (sub.reads id) = []) :
    (Place.handling (s.handed stream message tag)).Holds (s.arrive sub stream message tag) sub
        stream id ∧
      Entry.requests (s.since (s.arrive sub stream message tag)) = [] ∧
      ∃ payload, Entry.handlings (s.since (s.arrive sub stream message tag)) = [payload] := by
  obtain ⟨e, hd, rfl⟩ := Subscription.reads_iff.mp h
  obtain ⟨-, -, -, -, hr, hh⟩ := arrive_ok s sub stream message tag hd
  obtain ⟨hu', hc'⟩ := arrive_underWay tag hd hu
  exact ⟨⟨_, _, hu', rfl, rfl, hc'.trans hc⟩, hr, e.payload, hh⟩

/-- The only delivery of a message is the one that is found. -/
theorem eq_of_underWay {P : Message → Bool} {t t' : Task} (h : s.underWay stream P = [t])
    (ht : t' ∈ s.tasks) (hP : (t'.stream = stream && P t'.delivery.message) = true) : t' = t := by
  have := mem_underWay ht hP
  rw [h] at this
  exact List.mem_singleton.mp this

end
end Session

section
open Session
variable {s : Session} {sub : Subscription} {stream : Nat} {id : String}

theorem Place.Holds.handling_of_mem {place : Place} (hp : place.Holds s sub stream id) {t : Task}
    (ht : t ∈ s.tasks) (hP : (t.stream = stream && sub.reads id t.delivery.message) = true) :
    (place = .handling t.delivery ∧ ∃ answer, t.stage = .handling id answer) ∨
      (place = .delayed t.delivery ∧ t.stage = .delayed) := by
  have hm := mem_underWay ht hP
  cases place with
  | handling d =>
    obtain ⟨t', answer, hu, hd, hs, -⟩ := hp
    rw [hu] at hm
    rw [List.mem_singleton.mp hm]
    exact Or.inl ⟨by rw [hd], answer, hs⟩
  | delayed d =>
    obtain ⟨t', hu, hd, hs, -⟩ := hp
    rw [hu] at hm
    rw [List.mem_singleton.mp hm]
    exact Or.inr ⟨by rw [hd], hs⟩
  | nowhere | resolved | back =>
    rw [hp.1] at hm
    cases hm

end

namespace Session
section
variable {s : Session} {sub : Subscription} {stream : Nat} {id : String}

/-- A delivery that is concluded and waits no more, or waits to be sent back. -/
theorem conclude_underWay (stream : Nat) (P : Message → Bool) (sub' : Subscription) (t : Task)
    (id' : String) (answer : Answer) :
    (s.conclude sub' t id' answer).2.underWay stream P =
        (s.dequeue t).underWay stream P ++
          (if s.verdict sub' id' answer = .requeued then [s.delayedTask sub' t] else []).filter
            (fun t => t.stream = stream && P t.delivery.message) ∧
      (s.conclude sub' t id' answer).2.comingBack stream P = s.comingBack stream P := by
  obtain ⟨-, he⟩ := conclude_effect s sub' t id' answer
  refine ⟨underWay_append (s := s.dequeue t) he.tasks, ?_⟩
  unfold comingBack
  rw [conclude_returned]

theorem conclude_other {P : Message → Bool} (hs : s.Sound) {sub' : Subscription} {t : Task}
    (ht : t ∈ s.tasks) (id' : String) (answer : Answer)
    (h : (t.stream = stream && P t.delivery.message) = false) :
    (s.conclude sub' t id' answer).2.underWay stream P = s.underWay stream P := by
  rw [(conclude_underWay stream P sub' t id' answer).1, underWay_dequeue_of_not hs ht h]
  split
  · rw [List.filter_singleton]
    change _ ++ (bif (t.stream = stream && P t.delivery.message) then _ else _) = _
    rw [h]
    exact List.append_nil _
  · exact List.append_nil _

theorem dequeue_own {P : Message → Bool} (hs : s.Sound) {t : Task} (ht : t ∈ s.tasks)
    (hu : s.underWay stream P = [t]) : (s.dequeue t).underWay stream P = [] := by
  rw [underWay_dequeue hs ht, hu]
  simp

/-- The answer to a message decides how it goes on. -/
theorem conclude_own (h : s.Steady sub stream) {t : Task} (answer : Answer) (ht : t ∈ s.tasks)
    (hP : (t.stream = stream && sub.reads id t.delivery.message) = true)
    (hu : s.underWay stream (sub.reads id) = [t]) (hc : s.comingBack stream (sub.reads id) = []) :
    ∃ place, Leg sub stream id (.handling t.delivery)
        ⟨.concluded sub stream t.delivery id answer (s.conclude sub t id answer).1,
          s.since (s.conclude sub t id answer).2⟩ place ∧
      place.Holds (s.conclude sub t id answer).2 sub stream id := by
  obtain ⟨hv, he⟩ := conclude_effect s sub t id answer
  obtain ⟨hu', hc'⟩ := conclude_underWay stream (sub.reads id) sub t id answer
  rw [dequeue_own h.sound ht hu, List.nil_append] at hu'
  rw [hc] at hc'
  have hreq := he.requests
  by_cases hr : s.verdict sub id answer = .requeued
  · have hack : sub.consumer.ackOf? t.delivery .requeued = none := by simp [Consumer.ackOf?]
    rw [hr, hack] at hreq
    rw [if_pos hr, List.filter_singleton] at hu'
    change _ = bif (t.stream = stream && sub.reads id t.delivery.message) then _ else _ at hu'
    rw [hP] at hu'
    refine ⟨.delayed t.delivery, ?_, s.delayedTask sub t, hu', rfl, rfl, hc'⟩
    rw [hv, hr]
    exact .sendBack (Consumer.verdict_requeued hr).1 hreq he.handlings
  · have hack : sub.consumer.ackOf? t.delivery (s.verdict sub id answer) =
        some (.ack t.delivery.tag false) := by
      unfold Consumer.ackOf?
      simp [h.manual, hr]
    have hcall := Broker.call_of_grants (r := .ack t.delivery.tag false) h.acks
    rw [hack, Broker.replies, hcall] at hreq
    have hlost : s.verdict sub id answer ≠ .lost := by
      intro h'
      have hauto := Consumer.verdict_lost h'
      rw [h.manual] at hauto
      cases hauto
    rw [if_neg hr] at hu'
    refine ⟨.resolved, ?_, hu', hc'⟩
    rw [hv]
    exact .resolve hr hlost hreq he.handlings

theorem giveBack_other {P : Message → Bool} (h : s.Serving sub stream) (sub' : Subscription)
    {t : Task} (ht : t ∈ s.tasks) (hn : (t.stream = stream && P t.delivery.message) = false) :
    ((s.dequeue t).giveBack sub' t).underWay stream P = s.underWay stream P ∧
      ((s.dequeue t).giveBack sub' t).comingBack stream P = s.comingBack stream P := by
  have he := giveBack_effect s sub' t
  constructor
  · have hd : ((s.dequeue t).giveBack sub' t).underWay stream P =
        (s.dequeue t).underWay stream P := by
      unfold underWay
      rw [he.tasks]
      rfl
    rw [hd, underWay_dequeue_of_not h.sound ht hn]
  · rw [comingBack_append (h.tagged.giveBack_returned h.nacks h.redelivers _ ht)]
    simp [hn]

/-- A message that is given back is to be handed over again. -/
theorem giveBack_comingBack {P : Message → Bool} (h : s.Serving sub stream) (sub' : Subscription)
    {t : Task} (ht : t ∈ s.tasks) (hP : (t.stream = stream && P t.delivery.message) = true)
    (hu : s.underWay stream P = [t]) :
    ((s.dequeue t).giveBack sub' t).underWay stream P = [] ∧
      ((s.dequeue t).giveBack sub' t).comingBack stream P = s.comingBack stream P ++
        [⟨t.delivery.tag, t.stream, t.delivery.message⟩] := by
  constructor
  · have hd : ((s.dequeue t).giveBack sub' t).underWay stream P =
        (s.dequeue t).underWay stream P := by
      unfold underWay
      rw [(giveBack_effect s sub' t).tasks]
      rfl
    rw [hd, dequeue_own h.sound ht hu]
  · rw [comingBack_append (h.tagged.giveBack_returned h.nacks h.redelivers _ ht),
      List.filter_singleton]
    change _ ++ (bif (t.stream = stream && P t.delivery.message) then _ else _) = _
    rw [hP]
    rfl

theorem giveBack_own (h : s.Serving sub stream) {t : Task} (ht : t ∈ s.tasks)
    (hP : (t.stream = stream && sub.reads id t.delivery.message) = true)
    (hu : s.underWay stream (sub.reads id) = [t]) (hc : s.comingBack stream (sub.reads id) = []) :
    Leg sub stream id (.delayed t.delivery)
        ⟨.gaveBack sub stream t.delivery, s.since ((s.dequeue t).giveBack sub t)⟩ .back ∧
      Place.back.Holds ((s.dequeue t).giveBack sub t) sub stream id := by
  have he := giveBack_effect s sub t
  have hcall := Broker.call_of_grants (r := .nack t.delivery.tag false true) h.nacks
  have hreq := he.requests
  obtain ⟨hu', hc'⟩ := giveBack_comingBack h sub ht hP hu
  rw [Broker.replies, hcall] at hreq
  rw [hc, List.nil_append] at hc'
  exact ⟨.giveBack hreq he.handlings, hu', _, hc'⟩

end
end Session

namespace Session
section
variable {s s' : Session} {sub : Subscription} {stream : Nat} {d : Deed} {P : Message → Bool}

theorem comingBack_takeReturned_of_not {p : Parcel}
    (hP : (decide (p.stream = stream) && P p.message) = false) :
    (s.takeReturned p).comingBack stream P = s.comingBack stream P := by
  rw [comingBack_takeReturned, List.erase_of_not_mem]
  intro hm
  have := (List.mem_filter.mp hm).2
  rw [hP] at this
  cases this

/-- A move that is not about some messages of a stream leaves them where they are. -/
theorem Move.undisturbed (m : Move s d s') (h : s.Serving sub stream)
    (hn : d.isAbout stream P = false) :
    s'.underWay stream P = s.underWay stream P ∧
      s'.comingBack stream P = s.comingBack stream P := by
  cases m with
  | arrive message tag => exact arrive_other _ tag hn
  | @again sub' p =>
    obtain ⟨hu, hc⟩ := arrive_other (s := s.takeReturned p) sub' none hn
    exact ⟨hu, hc.trans (comingBack_takeReturned_of_not hn)⟩
  | @conclude sub' t id' answer ht =>
    exact ⟨conclude_other h.sound ht id' answer hn,
      (conclude_underWay stream P sub' t id' answer).2⟩
  | @giveBack sub' t ht => exact giveBack_other h sub' ht hn
  | @lose p hmem hclosed =>
    refine ⟨rfl, comingBack_takeReturned_of_not ?_⟩
    rw [Bool.and_eq_false_iff, decide_eq_false_iff_not]
    refine Or.inl fun hn => ?_
    rw [hn, h.isOpen] at hclosed
    cases hclosed
  | close n =>
    unfold underWay comingBack
    rw [close_tasks, close_returned]
    exact ⟨rfl, rfl⟩
  | count _ _ call => cases call <;> exact ⟨rfl, rfl⟩
  | aside ha =>
    unfold underWay comingBack
    rw [ha.tasks, ha.returned]
    exact ⟨rfl, rfl⟩

/-- A move that is not about the messages of an id on a stream leaves their count alone, if they are
the only ones that are counted with it. -/
theorem Move.count?_kept {id : String} (m : Move s d s') (h : s.Serving sub stream)
    (bound : sub.ledger < s.ledgers.length) (confined : s.Confined sub.ledger id [stream])
    (hc : d ≠ .counted sub.ledger id) (hn : d.isAbout stream (sub.reads id) = false) :
    (s'.ledger sub.ledger).count? id = (s.ledger sub.ledger).count? id := by
  rw [m.count?_eq bound hc]
  cases d with
  | concluded sub' n dl id' answer r =>
    refine if_neg ?_
    rintro ⟨hl, rfl⟩
    obtain ⟨hmem, hsub, hid⟩ := (hl ▸ confined).concluded h.sound m
    have hstream := List.mem_singleton.mp hmem
    have hsame := h.sub_eq hsub hstream
    subst hsame hstream
    simp [Deed.isAbout, Subscription.reads, hid] at hn
  | _ => rfl

end
end Session

section
open Session
variable {s s' : Session} {sub : Subscription} {stream : Nat} {id : String} {d : Deed}
  {place : Place}

/-- A deed has nothing to do with a message or brings it on by one leg of its course. -/
def Place.Onward (s : Session) (sub : Subscription) (stream : Nat) (id : String) (place : Place)
    (d : Deed) (s' : Session) : Prop :=
  d.isAbout stream (sub.reads id) = false ∧ place.Holds s' sub stream id ∨
    d.isAbout stream (sub.reads id) = true ∧
      ∃ place', Leg sub stream id place ⟨d, s.since s'⟩ place' ∧ place'.Holds s' sub stream id

/-- Only a message that was given back comes back. -/
theorem Place.Holds.back_of_mem (hp : place.Holds s sub stream id) {p : Parcel}
    (hmem : p ∈ s.broker.returned)
    (hP : (decide (p.stream = stream) && sub.reads id p.message) = true) :
    place = .back ∧ s.underWay stream (sub.reads id) = [] ∧
      s.comingBack stream (sub.reads id) = [p] := by
  have hm := mem_comingBack hmem hP
  cases place with
  | back =>
    obtain ⟨hu, q, hq⟩ := hp
    rw [hq] at hm
    rw [List.mem_singleton.mp hm]
    exact ⟨rfl, hu, hq⟩
  | handling => obtain ⟨_, _, -, -, -, hq⟩ := hp; rw [hq] at hm; cases hm
  | delayed => obtain ⟨_, -, -, -, hq⟩ := hp; rw [hq] at hm; cases hm
  | nowhere | resolved => rw [hp.2] at hm; cases hm

theorem Place.Holds.again_leg (hp : place.Holds s sub stream id) {p : Parcel}
    (hmem : p ∈ s.broker.returned)
    (hP : (decide (p.stream = stream) && sub.reads id p.message) = true) :
    ∃ place', Leg sub stream id place
        ⟨.returned sub stream ((s.takeReturned p).handed stream p.message none),
          s.since ((s.takeReturned p).arrive sub stream p.message none)⟩ place' ∧
      place'.Holds ((s.takeReturned p).arrive sub stream p.message none) sub stream id := by
  obtain ⟨-, hr⟩ : p.stream = stream ∧ sub.reads id p.message = true := by simpa using hP
  obtain ⟨rfl, hu, hq⟩ := hp.back_of_mem hmem hP
  have hc : (s.takeReturned p).comingBack stream (sub.reads id) = [] := by
    rw [comingBack_takeReturned, hq, List.erase_cons_head]
  obtain ⟨hh, hreq, payload, hhand⟩ := arrive_own (s := s.takeReturned p) none hr hu hc
  exact ⟨_, .again hreq hhand, hh⟩

theorem Place.Holds.conclude_leg (hp : place.Holds s sub stream id) (h : s.Steady sub stream)
    {t : Task} {id' : String} {answer : Answer} (ht : t ∈ s.tasks)
    (hP : (decide (t.stream = stream) && sub.reads id t.delivery.message) = true)
    (hstage : t.stage = .handling id' answer) :
    ∃ place', Leg sub stream id place
        ⟨.concluded sub stream t.delivery id' answer (s.conclude sub t id' answer).1,
          s.since (s.conclude sub t id' answer).2⟩ place' ∧
      place'.Holds (s.conclude sub t id' answer).2 sub stream id := by
  rcases hp.handling_of_mem ht hP with ⟨rfl, answer', hst⟩ | ⟨-, hst⟩
  · rw [hstage] at hst
    have hid := (Stage.handling.inj hst).1
    subst hid
    obtain ⟨t', _, hu, -, -, hc⟩ := hp
    have htt := eq_of_underWay hu ht hP
    subst htt
    exact conclude_own h answer ht hP hu hc
  · rw [hstage] at hst
    cases hst

theorem Place.Holds.giveBack_leg (hp : place.Holds s sub stream id) (h : s.Serving sub stream)
    {t : Task} (ht : t ∈ s.tasks)
    (hP : (decide (t.stream = stream) && sub.reads id t.delivery.message) = true)
    (hstage : t.stage = .delayed) :
    ∃ place', Leg sub stream id place
        ⟨.gaveBack sub stream t.delivery, s.since ((s.dequeue t).giveBack sub t)⟩ place' ∧
      place'.Holds ((s.dequeue t).giveBack sub t) sub stream id := by
  rcases hp.handling_of_mem ht hP with ⟨-, answer', hst⟩ | ⟨rfl, -⟩
  · rw [hstage] at hst
    cases hst
  · obtain ⟨t', hu, -, -, hc⟩ := hp
    have htt := eq_of_underWay hu ht hP
    subst htt
    obtain ⟨leg, hh⟩ := giveBack_own h ht hP hu hc
    exact ⟨_, leg, hh⟩

/-- A deed about some messages of a stream is done there. -/
theorem Deed.isAbout_stream {n : Nat} {m : Message} {P : Message → Bool}
    (h : (decide (n = stream) && P m) = true) : n = stream := by
  simp only [Bool.and_eq_true, decide_eq_true_eq] at h
  exact h.1

theorem Place.Holds.move (hp : place.Holds s sub stream id) (h : s.Steady sub stream)
    (m : Move s d s') (once : d.isArrival stream (sub.reads id) = true → place = .nowhere) :
    place.Onward s sub stream id d s' := by
  cases hP : d.isAbout stream (sub.reads id) with
  | false =>
    obtain ⟨hu, hc⟩ := m.undisturbed h.toServing hP
    exact Or.inl ⟨hP, hp.same hu hc⟩
  | true =>
    refine Or.inr ⟨hP, ?_⟩
    cases m with
    | @arrive sub' n message tag hsub =>
      obtain ⟨rfl, hr⟩ : n = stream ∧ sub.reads id message = true := by
        simpa [Deed.isAbout, handed] using hP
      have hs := h.sub_eq hsub rfl
      have hplace := once hP
      subst hs hplace
      obtain ⟨hh, hreq, payload, hhand⟩ := arrive_own tag hr hp.1 hp.2
      exact ⟨_, .arrive hreq hhand, hh⟩
    | @again sub' p hmem hsub =>
      have hn := Deed.isAbout_stream hP
      have hs := h.sub_eq hsub hn
      subst hs hn
      exact hp.again_leg hmem hP
    | @conclude sub' t id' answer ht hsub hstage =>
      have hn := Deed.isAbout_stream hP
      have hs := h.sub_eq hsub hn
      subst hs hn
      exact hp.conclude_leg h ht hP hstage
    | @giveBack sub' t ht hsub hstage =>
      have hn := Deed.isAbout_stream hP
      have hs := h.sub_eq hsub hn
      subst hs hn
      exact hp.giveBack_leg h.toServing ht hP hstage
    | _ => cases hP

theorem Session.Serving.done (h : s.Serving sub stream) {ledger : Nat}
    (alone : s.Confined ledger id []) (hl : sub.ledger = ledger) :
    s.Done stream (sub.reads id) := by
  have none : ∀ {m : Message}, (stream, m) ∈ s.pending → sub.reads id m = true → False := by
    intro m hm hr
    have hid : sub.idOf? m = some id := by simpa [Subscription.reads] using hr
    exact absurd (alone stream m hm ⟨sub, h.known, hl, hid⟩) List.not_mem_nil
  constructor
  · apply List.filter_eq_nil_iff.mpr
    intro t ht hP
    obtain ⟨rfl, hr⟩ : t.stream = stream ∧ sub.reads id t.delivery.message = true := by
      simpa using hP
    exact none (pending_of_task ht) hr
  · apply List.filter_eq_nil_iff.mpr
    intro p hp hP
    obtain ⟨rfl, hr⟩ : p.stream = stream ∧ sub.reads id p.message = true := by simpa using hP
    exact none (pending_of_returned hp) hr

/-- A message that is somewhere can always go on, without anything from outside. -/
theorem Place.Holds.next (hp : place.Holds s sub stream id) (h : s.Steady sub stream)
    (hn : ¬ s.Done stream (sub.reads id)) :
    ∃ d s', Move s d s' ∧ d.isAbout stream (sub.reads id) = true ∧
      d.isArrival stream (sub.reads id) = false := by
  have found : ∀ {t : Task}, s.underWay stream (sub.reads id) = [t] → t ∈ s.tasks ∧
      t.stream = stream ∧ sub.reads id t.delivery.message = true := by
    intro t hu
    have hm : t ∈ s.underWay stream (sub.reads id) := by rw [hu]; exact List.mem_singleton_self t
    simpa [underWay] using hm
  cases place with
  | nowhere | resolved => exact absurd hp hn
  | handling dl =>
    obtain ⟨t, answer, hu, rfl, hstage, -⟩ := hp
    obtain ⟨ht, rfl, hr⟩ := found hu
    exact ⟨_, _, .conclude ht h.known hstage, by simp [Deed.isAbout, hr], rfl⟩
  | delayed dl =>
    obtain ⟨t, hu, rfl, hstage, -⟩ := hp
    obtain ⟨ht, rfl, hr⟩ := found hu
    exact ⟨_, _, .giveBack ht h.known hstage, by simp [Deed.isAbout, hr], rfl⟩
  | back =>
    obtain ⟨-, p, hc⟩ := hp
    have hm : p ∈ s.comingBack stream (sub.reads id) := by rw [hc]; exact List.mem_singleton_self p
    obtain ⟨hp, rfl, hr⟩ : p ∈ s.broker.returned ∧ p.stream = stream ∧
        sub.reads id p.message = true := by
      simpa [comingBack] using hm
    refine ⟨_, _, .again hp h.known h.isOpen, ?_, rfl⟩
    change (decide (p.stream = p.stream) && sub.reads id p.message) = true
    simp [hr]

theorem Place.Holds.not_done (hp : place.Holds s sub stream id) (hn : place ≠ .nowhere)
    (hr : place ≠ .resolved) : ¬ s.Done stream (sub.reads id) := by
  rintro ⟨hu, hc⟩
  cases place with
  | nowhere => exact hn rfl
  | resolved => exact hr rfl
  | handling => obtain ⟨_, _, he, -⟩ := hp; rw [hu] at he; cases he
  | delayed => obtain ⟨_, he, -⟩ := hp; rw [hu] at he; cases he
  | back => obtain ⟨-, _, he⟩ := hp; rw [hc] at he; cases he

end
end Courier
