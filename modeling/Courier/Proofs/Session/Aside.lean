import Courier.Proofs.Session.Move
import Courier.Proofs.Work

/-! Declaring, registering and publishing leave the deliveries and the ledgers alone. -/
namespace Courier

/-- Work at a desk that opens the streams `new` and leaves the deliveries and the ledger alone. -/
structure Desk.Beside (new : List Stream) (d d' : Desk) : Prop where
  ledger : d'.ledger = d.ledger
  inFlight : d'.broker.inFlight = d.broker.inFlight
  returned : d'.broker.returned = d.broker.returned
  handedOver : d'.broker.handedOver = d.broker.handedOver
  redelivers : d'.broker.redelivers = d.broker.redelivers
  faults : ∀ rpc, rpc = .ack ∨ rpc = .nack →
    d'.broker.faults.ahead rpc = d.broker.faults.ahead rpc
  streams : d'.broker.streams = d.broker.streams ++ new

theorem Desk.Beside.refl (d : Desk) : Desk.Beside [] d d :=
  ⟨rfl, rfl, rfl, rfl, rfl, fun _ _ => rfl, (List.append_nil _).symm⟩

theorem Desk.Beside.trans {new new' : List Stream} {d d' d'' : Desk}
    (h : Desk.Beside new d d') (h' : Desk.Beside new' d' d'') :
    Desk.Beside (new ++ new') d d'' where
  ledger := h'.ledger.trans h.ledger
  inFlight := h'.inFlight.trans h.inFlight
  returned := h'.returned.trans h.returned
  handedOver := h'.handedOver.trans h.handedOver
  redelivers := h'.redelivers.trans h.redelivers
  faults rpc hr := (h'.faults rpc hr).trans (h.faults rpc hr)
  streams := by rw [h'.streams, h.streams, List.append_assoc]

/-- Work that leaves deliveries, ledger and streams alone at every desk. -/
def Harmless {α : Type} (work : StateM Desk α) : Prop :=
  ∀ d, Desk.Beside [] d (work.run d).2

theorem Broker.call_beside (b : Broker) {r : Request} (hr : r.rpc.isPlain = true) :
    (b.call r).2.inFlight = b.inFlight ∧ (b.call r).2.returned = b.returned ∧
      (b.call r).2.handedOver = b.handedOver ∧ (b.call r).2.redelivers = b.redelivers ∧
      (b.call r).2.streams = b.streams := by
  rw [call_eq]
  split
  · exact ⟨rfl, rfl, rfl, rfl, rfl⟩
  · cases r with
    | publish =>
      unfold after
      dsimp only
      split <;> exact ⟨rfl, rfl, rfl, rfl, rfl⟩
    | ack | nack | consume => cases hr
    | _ => exact ⟨rfl, rfl, rfl, rfl, rfl⟩

theorem Harmless.call {r : Request} (hr : r.rpc.isPlain = true) : Harmless (Desk.call r) := by
  intro d
  obtain ⟨hf, hret, ho, hred, hs⟩ := d.broker.call_beside hr
  refine ⟨rfl, hf, hret, ho, hred, ?_, hs.trans (List.append_nil _).symm⟩
  intro rpc h
  refine d.broker.call_ahead fun e => ?_
  rcases h with rfl | rfl <;> rw [e] at hr <;> cases hr

/-- Work that is made of plain steps is harmless. -/
theorem Made.harmless {α : Type} {work : StateM Desk α} (h : Made Chore.isPlain work) :
    Harmless work := by
  have untouched : ∀ d handled persisted drawn notes,
      Desk.Beside [] d { d with handled, persisted, drawn, notes } := fun _ _ _ _ _ =>
    ⟨rfl, rfl, rfl, rfl, rfl, fun _ _ => rfl, (List.append_nil _).symm⟩
  induction h with
  | pure => exact .refl
  | bind _ _ first rest => exact fun d => (first d).trans (rest _ _)
  | look _ _ rest => exact fun d => rest d d
  | note => exact fun _ => untouched _ _ _ _ _
  | call ok => exact Harmless.call ok
  | drawId => exact fun _ => untouched _ _ _ _ _
  | startPersist => exact fun _ => untouched _ _ _ _ _
  | acknowledge ok | startAttempt ok | updateLedger ok => cases ok

namespace Contract

/-- The streams that a subscription opens. -/
def opened (queue : String) : Except TopologyError Unit → List Stream
  | .ok () => [⟨queue, true⟩]
  | .error _ => []

theorem consume_beside (d : Desk) (lift : BrokerError → TopologyError) (queue consumerTag : String)
    (bufferSize : UInt16) (autoAck : Bool) :
    Desk.Beside
      (opened queue
        ((Desk.require lift (.consume queue consumerTag bufferSize autoAck)).run.run d).1) d
      ((Desk.require lift (.consume queue consumerTag bufferSize autoAck)).run.run d).2 := by
  have faults : ∀ rpc, rpc = .ack ∨ rpc = .nack →
      (d.broker.call (.consume queue consumerTag bufferSize autoAck)).2.faults.ahead rpc =
        d.broker.faults.ahead rpc := by
    intro rpc h
    refine d.broker.call_ahead ?_
    rcases h with rfl | rfl <;> exact Rpc.noConfusion
  rw [Desk.require_run]
  unfold Desk.called
  rw [Broker.call_eq] at faults ⊢
  split at faults
  · exact ⟨rfl, rfl, rfl, rfl, rfl, faults, (List.append_nil _).symm⟩
  · exact ⟨rfl, rfl, rfl, rfl, rfl, faults, rfl⟩

section
variable (c : Contract) (env : String) (d : Desk)

/-- A subscription opens one stream, if it succeeds. -/
theorem subscribe_beside :
    Desk.Beside (opened (c.address env) ((c.subscribe env).run.run d).1) d
      ((c.subscribe env).run.run d).2 := by
  have hd := (Made.declare c env).plain.harmless d
  unfold subscribe
  rw [ExceptT.run_bind, StateT.run_bind]
  generalize (c.declare env).run.run d = declared at hd ⊢
  obtain ⟨result, d'⟩ := declared
  cases result with
  | ok => exact hd.trans (consume_beside d' _ _ _ _ _)
  | error e => exact hd

theorem register_beside (registry : Registry) :
    Desk.Beside (opened (c.address env) ((c.register env registry).run d).1.1) d
      ((c.register env registry).run d).2 := by
  unfold register
  dsimp only
  cases registry.register (c.address env) c.payloadType.tag with
  | error e => exact .refl d
  | ok claimed =>
    have hs := subscribe_beside c env d
    dsimp only
    rw [StateT.run_bind]
    generalize (c.subscribe env).run.run d = subscribed at hs ⊢
    obtain ⟨result, d'⟩ := subscribed
    cases result with
    | error e => exact hs
    | ok =>
      have noted : Made Chore.isPlain
          (Desk.note (.log .info "consumer registered" [("queue", .text (c.address env))])) :=
        .note rfl
      have hn := hs.trans (noted.harmless d')
      rw [List.append_nil] at hn
      exact hn

end
end Contract

namespace Session
section
variable {α : Type} (s : Session)

theorem act_fst (ledger : Nat) (delivery : Option (Nat × Nat)) (h : Handler)
    (work : StateM Desk α) :
    (s.act ledger delivery h work).1 = (work.run (s.desk ledger)).1 := rfl

theorem act_subscriptions (ledger : Nat) (delivery : Option (Nat × Nat)) (h : Handler)
    (work : StateM Desk α) :
    (s.act ledger delivery h work).2.subscriptions = s.subscriptions := rfl

/-- Work that opens the streams `new` and is about no delivery. -/
theorem act_beside (ledger : Nat) (h : Handler) {work : StateM Desk α} {new : List Stream}
    (hb : Desk.Beside new (s.desk ledger) (work.run (s.desk ledger)).2)
    (dispatchers : List Dispatcher) (subs : List Subscription) (hlen : subs.length = new.length) :
    s.Aside { (s.act ledger none h work).2 with
      dispatchers, subscriptions := s.subscriptions ++ subs } := by
  refine ⟨?_, rfl, hb.inFlight, hb.returned, hb.handedOver, hb.redelivers, hb.faults,
    List.prefix_append _ _, ?_, ?_, s.journal, _, Or.inl rfl, rfl, ?_⟩
  · exact (congrArg (s.ledgers.set ledger) hb.ledger).trans (set_ledger s ledger)
  · exact ⟨new, hb.streams.symm⟩
  · intro hm
    have hs : (work.run (s.desk ledger)).2.broker.streams.length = _ :=
      congrArg List.length hb.streams
    change (s.subscriptions ++ subs).length = (work.run (s.desk ledger)).2.broker.streams.length
    rw [hs, List.length_append, List.length_append, hlen, hm]
    rfl
  · intro e he
    obtain ⟨n, -, rfl⟩ := List.mem_map.mp he
    rfl

theorem act_aside (ledger : Nat) (h : Handler) {work : StateM Desk α} (hw : Harmless work) :
    s.Aside (s.act ledger none h work).2 := by
  have ha := act_beside s ledger h (hw _) s.dispatchers [] rfl
  rw [List.append_nil] at ha
  exact ha

theorem Aside.refl : s.Aside s :=
  ⟨rfl, rfl, rfl, rfl, rfl, rfl, fun _ _ => rfl, List.prefix_rfl, List.prefix_rfl, id, s.journal,
    [],
    Or.inl rfl, (List.append_nil _).symm, fun _ h => absurd h List.not_mem_nil⟩

theorem register_aside (label : String) (c : Contract) (dispatcher : Nat) :
    s.Aside (s.register label c dispatcher).2 := by
  unfold register
  split
  · exact Aside.refl s
  · next d _ =>
    have hb := c.register_beside s.env (s.desk d.ledger) d.registry
    generalize hact : s.act d.ledger none c.handler (c.register s.env d.registry) = acted
    obtain ⟨⟨result, registry⟩, s'⟩ := acted
    have hfst := (act_fst s d.ledger none c.handler _).symm.trans (congrArg Prod.fst hact)
    have hsnd : (s.act d.ledger none c.handler (c.register s.env d.registry)).2 = s' :=
      congrArg Prod.snd hact
    rw [hfst] at hb
    have ha := act_beside s d.ledger c.handler hb
      (s'.dispatchers.set dispatcher { d with registry })
    rw [hsnd, ← act_subscriptions s d.ledger none c.handler, hsnd] at ha
    cases result with
    | error e =>
      have hnone := ha [] rfl
      rw [List.append_nil] at hnone
      exact hnone
    | ok => exact ha [⟨⟨label, c, c.address s'.env⟩, d.ledger⟩] rfl

end

section
variable (s : Session) (label : String) (c : Contract) {broadcast : Bool}
  (context : List (String × String)) (payload : Payload)

/-- The session when a handler has taken his time. -/
def waited (ms : Nat) : Session := if ms = 0 then s else s.advance (min ms longestWait)

/-- Persists a payload that has a routing key, and publishes it. -/
def publishUnder (key : String) : Except PublishError String × Session :=
  let enclosed := s.work c (c.enclose label payload)
  let attempt := enclosed.1.2
  let sent := (enclosed.2.waited attempt.wait).work c
    (c.send key context enclosed.1.1 attempt.result).run
  (sent.1, sent.2.route)

/-- A payload that has no routing key is not published. -/
theorem publish_of_error {e : PublishError}
    (h : (s.work c (c.routingKey s.env broadcast).run).1 = .error e) :
    s.publish label c broadcast context payload =
      (.error e, (s.work c (c.routingKey s.env broadcast).run).2) := by
  unfold publish
  generalize s.work c (c.routingKey s.env broadcast).run = keyed at h ⊢
  obtain ⟨_, s₁⟩ := keyed
  dsimp only at h
  subst h
  rfl

theorem publish_of_key {key : String}
    (h : (s.work c (c.routingKey s.env broadcast).run).1 = .ok key) :
    s.publish label c broadcast context payload =
      (s.work c (c.routingKey s.env broadcast).run).2.publishUnder label c context payload key := by
  unfold publish
  generalize s.work c (c.routingKey s.env broadcast).run = keyed at h ⊢
  obtain ⟨_, s₁⟩ := keyed
  dsimp only at h
  subst h
  rfl

end
end Session
end Courier
