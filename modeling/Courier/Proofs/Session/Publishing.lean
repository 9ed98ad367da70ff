import Courier.Proofs.Fault
import Courier.Proofs.Publication
import Courier.Proofs.Session.Tending

/-! What a session does of its own accord, apart from the deliveries that go on meanwhile. -/
namespace Courier

theorem Made.unpersisted {α : Type} {work : StateM Desk α} (h : Made Chore.asks work) (d : Desk) :
    (work.run d).2.persisted = d.persisted := by
  induction h generalizing d with
  | bind _ _ first rest => exact (rest _ _).trans (first d)
  | look _ _ rest => exact rest d d
  | acknowledge ok | startPersist ok => cases ok
  | _ => rfl

/-- What entries tell that is about no delivery and not only said in logs. -/
def Entry.own (entries : List Entry) : List Event :=
  ((entries.filter fun e => e.delivery.isNone).map (·.note.event)).filter fun e => !e.isLog

/-- The requests that entries tell of and that are about no delivery. -/
def Entry.ownRequests (entries : List Entry) : List (Request × Bool) :=
  (Entry.own entries).filterMap Event.request?

theorem Entry.own_append (entries more : List Entry) :
    Entry.own (entries ++ more) = Entry.own entries ++ Entry.own more := by
  unfold Entry.own
  rw [List.filter_append, List.map_append, List.filter_append]

theorem Entry.own_eq_nil {entries : List Entry} (h : ∀ e ∈ entries, e.delivery ≠ none) :
    Entry.own entries = [] := by
  have hnone : entries.filter (fun e => e.delivery.isNone) = [] := by
    refine List.filter_eq_nil_iff.mpr fun e he hn => ?_
    exact h e he (Option.isNone_iff_eq_none.mp hn)
  unfold Entry.own
  rw [hnone]
  rfl

theorem Entry.own_heard (h : Handler) (time : Nat) (notes : List Note) :
    Entry.own ((notes.filter fun n => h.hears n.event).map fun n => ⟨time, none, n⟩) =
      ((notes.map Note.event).filter fun e => !e.isLog).filter h.hears := by
  have hall : ∀ ns : List Note,
      (ns.map fun n => (⟨time, none, n⟩ : Entry)).filter (fun e => e.delivery.isNone) =
        ns.map fun n => ⟨time, none, n⟩ := by
    intro ns
    refine List.filter_eq_self.mpr fun e he => ?_
    obtain ⟨n, -, rfl⟩ := List.mem_map.mp he
    rfl
  unfold Entry.own
  rw [hall, List.map_map, List.filter_map, List.filter_filter, List.filter_filter, List.filter_map]
  refine congrArg (List.map Note.event) (List.filter_congr fun n _ => ?_)
  exact Bool.and_comm _ _

namespace Session

/-- All that a session has done of its own accord since an earlier time. -/
def Enters (s s' : Session) (events : List Event) : Prop :=
  ∃ new, s'.journal = s.journal ++ new ∧ Entry.own new = events

section
variable {s s' s'' : Session} {events more : List Event}

theorem Enters.own_since (h : s.Enters s' events) : Entry.own (s.since s') = events := by
  obtain ⟨new, hnew, hown⟩ := h
  rw [since_eq hnew]
  exact hown

theorem Enters.trans (h : s.Enters s' events) (h' : s'.Enters s'' more) :
    s.Enters s'' (events ++ more) := by
  obtain ⟨new, hnew, rfl⟩ := h
  obtain ⟨new', hnew', rfl⟩ := h'
  refine ⟨new ++ new', ?_, Entry.own_append new new'⟩
  rw [hnew', hnew, List.append_assoc]

theorem Tends.enters (h : s.Tends s') : s.Enters s' [] := by
  obtain ⟨new, hnew, habout⟩ := h.journal
  exact ⟨new, hnew, Entry.own_eq_nil habout⟩

theorem act_enters {α : Type} (s : Session) (ledger : Nat) (h : Handler) (work : StateM Desk α) :
    s.Enters (s.act ledger none h work).2
      ((work.run (s.desk ledger)).2.events.filter h.hears) :=
  ⟨_, rfl, Entry.own_heard h s.now _⟩

end
end Session

namespace Contract
variable (c : Contract)

/-- The routing key of a payload, if the exchange takes payloads without one or none is wanted. -/
def key (env : String) (broadcast : Bool) : Except PublishError String :=
  if !broadcast then .ok (c.address env)
  else if c.exchange.kind.broadcasts then .ok ""
  else .error (.unsupportedExchangeKind c.exchange.kind.name)

theorem routingKey_plays (env : String) (broadcast : Bool) (d : Desk) :
    d.Plays (c.routingKey env broadcast) [] (c.key env broadcast) := by
  unfold routingKey key
  split
  · exact Desk.Plays.pure d _
  · split
    · exact Desk.Plays.pure d _
    · exact (Desk.Plays.log d _ _ _).quietly fun d' _ => Desk.Plays.throw d' _

theorem routingKey_drawn (env : String) (broadcast : Bool) (d : Desk) :
    ((c.routingKey env broadcast).run.run d).2.drawn = d.drawn := by
  unfold routingKey
  split
  · rfl
  · split <;> rfl

/-- A payload is persisted under the next id. -/
theorem enclose_run (label : String) (payload : Payload) (d : Desk) :
    ((c.enclose label payload).run d).1.1 = ⟨MessageId.ofNat d.drawn, payload⟩ ∧
      ((c.enclose label payload).run d).2.events =
        d.events ++ [.persisted c.payloadType (MessageId.ofNat d.drawn) payload] :=
  ⟨rfl, Desk.noted_events _ (.persisted c.payloadType (MessageId.ofNat d.drawn) payload)⟩

end Contract

namespace Session
section
variable (s : Session) (label : String) (c : Contract)

/-- Work for a contract that comes to a script. -/
theorem work_plays {ε α : Type} {work : ExceptT ε (StateM Desk) α} {script : Script ε}
    {result : Except ε α} (h : (s.desk (s.ledgerOf 0)).Plays work script result) :
    (s.work c work.run).1 = (s.broker.play script).1.bind (fun _ => result) ∧
      s.Enters (s.work c work.run).2
        (((s.broker.trace script).map fun step => .request step.1 step.2).filter
          c.handler.hears) := by
  obtain ⟨hgiven, -, hevents⟩ := h
  have hentered := act_enters s (s.ledgerOf 0) c.handler work.run
  have hsame : (work.run.run (s.desk (s.ledgerOf 0))).2.events = _ := hevents
  rw [hsame] at hentered
  exact ⟨hgiven, hentered⟩

/-- Work that only asks and tells persists nothing. -/
theorem work_persisted {α : Type} {w : StateM Desk α} (h : Made Chore.asks w) :
    (s.work c w).2.persisted = s.persisted :=
  h.unpersisted (s.desk (s.ledgerOf 0))

theorem work_routingKey (broadcast : Bool) :
    (s.work c (c.routingKey s.env broadcast).run).1 = c.key s.env broadcast ∧
      (s.work c (c.routingKey s.env broadcast).run).2.drawn = s.drawn ∧
      s.Enters (s.work c (c.routingKey s.env broadcast).run).2 [] := by
  obtain ⟨hgiven, hentered⟩ :=
    work_plays s c (c.routingKey_plays s.env broadcast (s.desk (s.ledgerOf 0)))
  exact ⟨hgiven, c.routingKey_drawn s.env broadcast _, hentered⟩

theorem work_enclose (payload : Payload) :
    (s.work c (c.enclose label payload)).1.1 = ⟨MessageId.ofNat s.drawn, payload⟩ ∧
      s.Enters (s.work c (c.enclose label payload)).2
        ([Event.persisted c.payloadType (MessageId.ofNat s.drawn) payload].filter
          c.handler.hears) := by
  obtain ⟨hid, hevents⟩ := c.enclose_run label payload (s.desk (s.ledgerOf 0))
  have hentered := act_enters s (s.ledgerOf 0) c.handler (c.enclose label payload)
  rw [hevents] at hentered
  exact ⟨hid, hentered⟩

/-- A payload is persisted under a new id, and then it is published: by a broker that has the same
plans for that as at the start, whatever deliveries have gone on meanwhile. -/
theorem publishUnder_plays (key : String) (context : List (String × String)) (payload : Payload) :
    ∃ b : Broker,
      let e : Envelope := ⟨MessageId.ofNat s.drawn, payload⟩
      let sending := c.sending key context e s.broker.confirm
      let published := s.publishUnder label c context payload key
      (∀ r : Request, r.rpc ≠ .ack → r.rpc ≠ .nack → b.fault? r = s.broker.fault? r) ∧
        published.1 = (b.play sending.1).1.bind (fun _ => sending.2) ∧
        s.Enters published.2
          ((.persisted c.payloadType e.id payload ::
              (b.trace sending.1).map fun step => .request step.1 step.2).filter
            c.handler.hears) ∧
        published.2.persisted = s.persisted.put label ((s.persisted.get? label).getD 0 + 1) := by
  obtain ⟨hid, henclosed⟩ := work_enclose s label c payload
  unfold publishUnder
  dsimp only
  have hbroker : (s.work c (c.enclose label payload)).2.broker = s.broker := rfl
  have hpersisted : (s.work c (c.enclose label payload)).2.persisted =
    s.persisted.put label ((s.persisted.get? label).getD 0 + 1) := rfl
  generalize s.work c (c.enclose label payload) = result at hid henclosed hbroker hpersisted ⊢
  obtain ⟨⟨e, attempt⟩, s₁⟩ := result
  dsimp only at hid henclosed hbroker hpersisted ⊢
  subst hid
  have hwaited := waited_tends s₁ attempt.wait
  generalize s₁.waited attempt.wait = s₂ at hwaited ⊢
  have hconfirm : s₂.broker.confirm = s.broker.confirm := by rw [hwaited.confirm, hbroker]
  have hsending := Contract.send_plays (c := c) key context ⟨MessageId.ofNat s.drawn, payload⟩
    attempt.result (s₂.desk (s₂.ledgerOf 0))
  change Desk.Plays _ _ (c.sending key context _ s₂.broker.confirm).1
    (c.sending key context _ s₂.broker.confirm).2 at hsending
  rw [hconfirm] at hsending
  obtain ⟨hsent, hentered⟩ := work_plays s₂ c hsending
  have hall := henclosed.trans (hwaited.enters.trans (hentered.trans (route_tends _).enters))
  rw [List.nil_append, List.append_nil, ← List.filter_append] at hall
  refine ⟨s₂.broker, fun r ack nack => ?_, hsent, hall, ?_⟩
  · unfold Broker.fault?
    rw [hwaited.plan _ ack nack, hbroker]
  · rw [(route_tends _).persisted, work_persisted s₂ c (Made.send c key context _ attempt.result),
      hwaited.persisted, hpersisted]

/-- A payload that has a routing key is persisted and published. -/
theorem publish_plays (broadcast : Bool) (context : List (String × String)) (payload : Payload)
    {key : String} (hkey : c.key s.env broadcast = .ok key) :
    ∃ b : Broker,
      let e : Envelope := ⟨MessageId.ofNat s.drawn, payload⟩
      let sending := c.sending key context e s.broker.confirm
      (∀ r : Request, r.rpc ≠ .ack → r.rpc ≠ .nack → b.fault? r = s.broker.fault? r) ∧
        (s.publish label c broadcast context payload).1 =
          (b.play sending.1).1.bind (fun _ => sending.2) ∧
        s.Enters (s.publish label c broadcast context payload).2
          ((.persisted c.payloadType e.id payload ::
              (b.trace sending.1).map fun step => .request step.1 step.2).filter
            c.handler.hears) ∧
        (s.publish label c broadcast context payload).2.persisted =
          s.persisted.put label ((s.persisted.get? label).getD 0 + 1) := by
  obtain ⟨hgiven, hdrawn, hkeyed⟩ := work_routingKey s c broadcast
  have hbroker : (s.work c (c.routingKey s.env broadcast).run).2.broker = s.broker :=
    (c.routingKey_plays s.env broadcast (s.desk (s.ledgerOf 0))).broker
  have hpersisted := work_persisted s c (Made.routingKey c s.env broadcast)
  have hplays := publishUnder_plays (s.work c (c.routingKey s.env broadcast).run).2 label c key
    context payload
  rw [hdrawn, hbroker, hpersisted] at hplays
  rw [publish_of_key s label c context payload (hgiven.trans hkey)]
  obtain ⟨b, hplan, hresult, hentered, hcounted⟩ := hplays
  exact ⟨b, hplan, hresult, hkeyed.trans hentered, hcounted⟩

theorem publish_enters (broadcast : Bool) (context : List (String × String)) (payload : Payload)
    {key : String} (hkey : c.key s.env broadcast = .ok key) :
    ∃ (b : Broker) (confirm : Bool),
      let e : Envelope := ⟨MessageId.ofNat s.drawn, payload⟩
      let sending := c.sending key context e confirm
      (s.publish label c broadcast context payload).1 =
          (b.play sending.1).1.bind (fun _ => sending.2) ∧
        s.Enters (s.publish label c broadcast context payload).2
          ((.persisted c.payloadType e.id payload ::
              (b.trace sending.1).map fun step => .request step.1 step.2).filter
            c.handler.hears) := by
  obtain ⟨b, -, hgiven, hentered, -⟩ := publish_plays s label c broadcast context payload hkey
  exact ⟨b, s.broker.confirm, hgiven, hentered⟩

/-- A request to publish names the exchange of the contract and the routing key, and carries the
trace context. -/
theorem publish_requests {broadcast : Bool} {context : List (String × String)} {payload : Payload}
    {exchange key : String} {headers : Headers} {body : Bytes} {ok : Bool}
    (h : (.publish exchange key headers body, ok) ∈
      Entry.ownRequests (s.since (s.publish label c broadcast context payload).2)) :
    exchange = c.exchange.name ∧ c.key s.env broadcast = .ok key ∧
      headers = TraceContext.inject context := by
  unfold Entry.ownRequests at h
  cases hkey : c.key s.env broadcast with
  | error e =>
    obtain ⟨hgiven, -, hkeyed⟩ := work_routingKey s c broadcast
    rw [publish_of_error s label c context payload (hgiven.trans hkey), hkeyed.own_since] at h
    simp at h
  | ok key' =>
    obtain ⟨b, confirm, -, hentered⟩ := s.publish_enters label c broadcast context payload hkey
    rw [hentered.own_since] at h
    obtain ⟨e, he, hrequest⟩ := List.mem_filterMap.mp h
    rcases List.mem_cons.mp (List.mem_filter.mp he).1 with rfl | he
    · cases hrequest
    · obtain ⟨made, hmade, rfl⟩ := List.mem_map.mp he
      have hmade' : made = (.publish exchange key headers body, ok) := Option.some.inj hrequest
      obtain ⟨step, hstep, hsame⟩ := b.trace_subset _ _ hmade
      rw [hmade'] at hsame
      obtain ⟨hexchange, hkey', hheaders⟩ := Contract.sending_publishes hstep hsame.symm
      exact ⟨hexchange, by rw [hkey'], hheaders⟩

end
end Session

/-- A place with one dispatcher. -/
def Trial.home : Session where
  env := "dev"
  ledgers := [{}]
  dispatchers := [{ ledger := 0 }]

end Courier
