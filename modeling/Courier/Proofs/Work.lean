import Courier.Declaration
import Courier.Delivery
import Courier.Publication

/-! What work at a desk is made of. What holds of each step and goes through from one step to the
next holds of all work: by an induction that has one case for each kind of step. -/
namespace Courier

/-- The kinds of requests that neither resolve a delivery nor open a stream. -/
def Rpc.isPlain : Rpc → Bool
  | .ack | .nack | .consume => false
  | _ => true

/-- A step of work at a desk. A delivery is acknowledged in one step, for nobody asks whether that
has succeeded. -/
inductive Chore where
  | note (e : Event)
  | ask (r : Request)
  | acknowledge (tag : Nat)
  | draw
  | persist (label : String)
  | attempt (label : String) (payload : Payload)
  | count (f : Ledger → Ledger)

namespace Chore

/-- Notes, and requests that are about no delivery and no stream. -/
def asks : Chore → Bool
  | .note _ => true
  | .ask r => r.rpc.isPlain
  | _ => false

/-- What has no part in deliveries, ledgers and streams. -/
def isPlain : Chore → Bool
  | .draw | .persist _ => true
  | chore => chore.asks

/-- What resolves a delivery, without its being given back. -/
def resolves : Chore → Bool
  | .note _ | .acknowledge _ | .attempt _ _ | .count _ => true
  | _ => false

/-- What work on deliveries does. -/
def tends : Chore → Bool
  | .ask r => r.rpc == .nack
  | chore => chore.resolves

/-- Everything but requests that resolve a delivery and whose result is looked at. -/
def keeps : Chore → Bool
  | .ask r => r.rpc != .ack && r.rpc != .nack
  | _ => true

theorem keeps_of_isPlain (chore : Chore) (h : chore.isPlain = true) : chore.keeps = true := by
  cases chore with
  | ask r => cases r <;> first | rfl | cases h
  | _ => rfl

theorem keeps_of_resolves (chore : Chore) (h : chore.resolves = true) : chore.keeps = true := by
  cases chore with
  | ask r => cases h
  | _ => rfl

theorem tends_of_resolves (chore : Chore) (h : chore.resolves = true) : chore.tends = true := by
  cases chore with
  | ask r => cases h
  | _ => exact h

theorem isPlain_of_asks (chore : Chore) (h : chore.asks = true) : chore.isPlain = true := by
  cases chore with
  | note | ask => exact h
  | _ => cases h

end Chore

/-- Work that is made of such steps. When it looks around, it sees the ledger and whether publishing
is confirmed. -/
inductive Made (can : Chore → Bool) : {α : Type} → StateM Desk α → Prop
  | pure {α : Type} (a : α) : Made can (Pure.pure a : StateM Desk α)
  | bind {α β : Type} {work : StateM Desk α} {next : α → StateM Desk β} (first : Made can work)
      (rest : ∀ a, Made can (next a)) : Made can (work >>= next)
  | look {α : Type} {next : Desk → StateM Desk α} (rest : ∀ d, Made can (next d))
      (sees : ∀ d d' : Desk, d'.ledger = d.ledger → d'.broker.confirm = d.broker.confirm →
        next d' = next d) : Made can (MonadState.get >>= next)
  | note {e : Event} (ok : can (.note e) = true) : Made can (Desk.note e)
  | call {r : Request} (ok : can (.ask r) = true) : Made can (Desk.call r)
  | acknowledge {k : Consumer} {d : Delivery} (ok : can (.acknowledge d.tag) = true) :
      Made can (k.acknowledge d)
  | drawId (ok : can .draw = true) : Made can Desk.drawId
  | startPersist {label : String} (ok : can (.persist label) = true) :
      Made can (Desk.startPersist label)
  | startAttempt {label : String} {payload : Payload} (ok : can (.attempt label payload) = true) :
      Made can (Desk.startAttempt label payload)
  | updateLedger {f : Ledger → Ledger} (ok : can (.count f) = true) : Made can (Desk.updateLedger f)

namespace Made

theorem mono {can can' : Chore → Bool} {α : Type} {work : StateM Desk α} (h : Made can work)
    (weaker : ∀ chore, can chore = true → can' chore = true) : Made can' work := by
  induction h with
  | pure a => exact .pure a
  | bind _ _ first rest => exact .bind first rest
  | look _ sees rest => exact .look rest sees
  | note ok => exact .note (weaker _ ok)
  | call ok => exact .call (weaker _ ok)
  | acknowledge ok => exact .acknowledge (weaker _ ok)
  | drawId ok => exact .drawId (weaker _ ok)
  | startPersist ok => exact .startPersist (weaker _ ok)
  | startAttempt ok => exact .startAttempt (weaker _ ok)
  | updateLedger ok => exact .updateLedger (weaker _ ok)

theorem plain {α : Type} {work : StateM Desk α} (h : Made Chore.asks work) :
    Made Chore.isPlain work :=
  h.mono Chore.isPlain_of_asks

section
variable {can : Chore → Bool} {α β ε : Type}

theorem throw (e : ε) : Made can (MonadExcept.throw e : ExceptT ε (StateM Desk) α).run :=
  .pure (Except.error e)

theorem exceptPure (a : α) : Made can (Pure.pure a : ExceptT ε (StateM Desk) α).run :=
  .pure (Except.ok a)

theorem exceptBind {work : ExceptT ε (StateM Desk) α} {next : α → ExceptT ε (StateM Desk) β}
    (first : Made can work.run) (rest : ∀ a, Made can (next a).run) :
    Made can (work >>= next).run := by
  rw [ExceptT.run_bind]
  refine .bind first fun result => ?_
  cases result with
  | ok a => exact rest a
  | error e => exact .pure (Except.error e)

theorem lift {work : StateM Desk α} (h : Made can work) :
    Made can (MonadLift.monadLift work : ExceptT ε (StateM Desk) α).run :=
  .bind h fun a => .pure (Except.ok a)

theorem exceptLook {next : Desk → ExceptT ε (StateM Desk) α} (rest : ∀ d, Made can (next d).run)
    (sees : ∀ d d' : Desk, d'.ledger = d.ledger → d'.broker.confirm = d.broker.confirm →
      next d' = next d) : Made can (MonadState.get >>= next).run := by
  change Made can (MonadState.get >>= fun d => (next d).run)
  exact .look rest fun d d' hledger hconfirm => congrArg ExceptT.run (sees d d' hledger hconfirm)

theorem ite {c : Prop} [Decidable c] {work work' : ExceptT ε (StateM Desk) α}
    (h : Made can work.run) (h' : Made can work'.run) :
    Made can (if c then work else work').run := by
  split
  · exact h
  · exact h'

/-- Work that is done only under a condition before more is done. -/
theorem whenThen {c : Prop} [Decidable c] {work : ExceptT ε (StateM Desk) Unit}
    {next : Unit → ExceptT ε (StateM Desk) α} (h : Made can work.run)
    (rest : ∀ a, Made can (next a).run) : Made can (if c then work >>= next else next ()).run :=
  ite (exceptBind h rest) (rest ())

theorem require {lift : BrokerError → ε} {r : Request} (ok : can (.ask r) = true) :
    Made can (Desk.require lift r).run := by
  refine exceptBind (Made.lift (call ok)) fun result => ?_
  cases result with
  | ok => exact exceptPure ()
  | error e => exact throw (lift e)

end

section
variable (c : Contract) (env : String)

theorem inspect : Made Chore.asks c.inspect.run := by
  unfold Contract.inspect
  cases c.validate with
  | error fault => exact throw fault.error
  | ok => exact ite (lift (note rfl)) (exceptPure ())

theorem matchPayload : Made Chore.asks c.matchPayload.run := by
  unfold Contract.matchPayload
  split
  · exact exceptBind (lift (note rfl)) fun _ => throw _
  · exact exceptPure ()

theorem declare : Made Chore.asks (c.declare env).run := by
  unfold Contract.declare
  refine exceptBind (inspect c) fun _ => ?_
  refine whenThen (require rfl) fun _ => ?_
  refine exceptBind (matchPayload c) fun _ => ?_
  refine exceptBind (require rfl) fun _ => ?_
  refine whenThen (require rfl) fun _ => ?_
  exact exceptBind (lift (note rfl)) fun _ => exceptPure _

theorem register (registry : Registry) : Made Chore.keeps (c.register env registry) := by
  have declared : Made Chore.keeps (c.declare env).run :=
    (declare c env).plain.mono Chore.keeps_of_isPlain
  have subscribed : Made Chore.keeps (c.subscribe env).run := by
    unfold Contract.subscribe
    exact exceptBind declared fun _ => require rfl
  unfold Contract.register
  dsimp only
  cases registry.register (c.address env) c.payloadType.tag with
  | error e => exact .pure _
  | ok claimed =>
    refine .bind subscribed fun result => ?_
    cases result with
    | error e => exact .pure _
    | ok => exact .bind (note rfl) fun _ => .pure _

theorem routingKey (broadcast : Bool) : Made Chore.asks (c.routingKey env broadcast).run := by
  unfold Contract.routingKey
  refine ite (exceptPure _) (ite (exceptPure _) ?_)
  exact exceptBind (lift (note rfl)) fun _ => throw _

theorem enclose (label : String) (payload : Payload) :
    Made Chore.isPlain (c.enclose label payload) := by
  unfold Contract.enclose
  refine .bind (drawId rfl) fun _ => .bind (startPersist rfl) fun _ => ?_
  exact .bind (note rfl) fun _ => .pure _

theorem reviewPersisting (e : Envelope) (key : String) (persisted : Except HandlerError Unit) :
    Made Chore.asks (c.reviewPersisting e key persisted).run := by
  unfold Contract.reviewPersisting
  cases persisted with
  | ok => exact exceptPure ()
  | error => exact lift (note rfl)

theorem body (e : Envelope) : Made Chore.asks (c.body e).run := by
  unfold Contract.body
  refine ite ?_ ?_
  · refine exceptBind (lift (note rfl)) fun _ => exceptBind (throw _) fun _ => ?_
    cases e.encode c.payloadType with
    | ok bytes => exact exceptPure bytes
    | error => exact exceptBind (lift (note rfl)) fun _ => throw _
  · cases e.encode c.payloadType with
    | ok bytes => exact exceptPure bytes
    | error => exact exceptBind (lift (note rfl)) fun _ => throw _

theorem confirm (id key : String) : Made Chore.asks (Contract.confirm id key).run := by
  unfold Contract.confirm
  refine exceptLook (fun d => ite ?_ (exceptPure ())) fun d d' _ hconfirm => ?_
  · refine exceptBind (lift (call rfl)) fun result => ?_
    cases result with
    | ok => exact exceptPure ()
    | error => exact exceptBind (lift (note rfl)) fun _ => throw _
  · rw [hconfirm]

theorem send (key : String) (context : List (String × String)) (e : Envelope)
    (persisted : Except HandlerError Unit) :
    Made Chore.asks (c.send key context e persisted).run := by
  unfold Contract.send
  refine exceptBind (reviewPersisting c e key persisted) fun _ => ?_
  refine exceptBind (body c e) fun _ => ?_
  refine exceptBind (require rfl) fun _ => ?_
  exact exceptBind (confirm e.id key) fun _ => exceptPure _

end

section
variable (k : Consumer) (d : Delivery)

theorem accept : Made Chore.resolves (k.accept d) := by
  unfold Consumer.accept
  refine .bind (note rfl) fun _ => ?_
  cases Envelope.decode k.contract.payloadType d.message.body with
  | error e =>
    have poisoned : Made Chore.resolves (k.poison d e) := by
      unfold Consumer.poison
      refine .bind (note rfl) fun _ => .bind (note rfl) fun _ => .bind (note rfl) fun _ => ?_
      exact .bind (.acknowledge rfl) fun _ => note rfl
    exact .bind poisoned fun _ => .pure none
  | ok e => exact .bind (startAttempt rfl) fun _ => .bind (note rfl) fun _ => .pure _

theorem retry (id reason : String) : Made Chore.resolves (k.retry d id reason) := by
  unfold Consumer.retry
  dsimp only
  split
  · exact .bind (note rfl) fun _ => .bind (note rfl) fun _ => .pure _
  · refine .look (fun desk => ?_) fun _ _ hledger _ => by rw [hledger]
    split
    · refine .bind (note rfl) fun _ => .bind (updateLedger rfl) fun _ => ?_
      exact .bind (.acknowledge rfl) fun _ => .bind (note rfl) fun _ => .pure _
    · refine .bind (updateLedger rfl) fun _ => ?_
      refine .look (fun _ => ?_) fun _ _ hledger _ => by rw [hledger]
      exact .bind (note rfl) fun _ => .pure _

theorem conclude (id : String) (answer : Answer) :
    Made Chore.resolves (k.conclude d id answer) := by
  unfold Consumer.conclude
  cases answer.result with
  | ok =>
    refine .bind (note rfl) fun _ => .bind (updateLedger rfl) fun _ => ?_
    refine .bind (.acknowledge rfl) fun _ => .bind (note rfl) fun _ => ?_
    exact .bind (note rfl) fun _ => .pure _
  | error e =>
    cases e with
    | malformed reason =>
      refine .bind (note rfl) fun _ => .bind (note rfl) fun _ => .bind (note rfl) fun _ => ?_
      refine .bind (updateLedger rfl) fun _ => .bind (.acknowledge rfl) fun _ => ?_
      exact .bind (note rfl) fun _ => .pure _
    | failed reason =>
      refine .bind (note rfl) fun _ => .bind (note rfl) fun _ => ?_
      exact retry k d id reason

theorem giveBack : Made Chore.tends (Consumer.giveBack d) := by
  unfold Consumer.giveBack
  refine .bind (call rfl) fun result => ?_
  cases result with
  | ok => exact note rfl
  | error e =>
    have broken : Made Chore.tends
        (Consumer.markBroken e d.tag "error whiling requeuing" "error to requeuing msg") :=
      .bind (note rfl) fun _ => note rfl
    exact .bind broken fun _ => note rfl

end
end Made
end Courier
