import Courier.Proofs.Account.Once

/-! What a span tells of its delivery: the last status that is set counts. -/
namespace Courier

/-- What leaves a mark on the span of a delivery: a status, or a request, which has succeeded or
not. -/
inductive Mark where
  | status (s : SpanStatus)
  | asked (ok : Bool)
  deriving DecidableEq

def Event.mark? : Event → Option Mark
  | .spanStatus s => some (.status s)
  | .request _ ok => some (.asked ok)
  | _ => none

def Mark.status? : Mark → Option SpanStatus
  | .status s => some s
  | .asked _ => none

/-- A later status takes the place of an earlier one. -/
def lastStatus (marks : List Mark) : Option SpanStatus := (marks.filterMap Mark.status?).getLast?

theorem lastStatus_status (marks : List Mark) (s : SpanStatus) :
    lastStatus (marks ++ [.status s]) = some s := by
  unfold lastStatus
  rw [List.filterMap_append]
  exact List.getLast?_concat

/-- The marks of a request, if one is made. One that fails sets a status with this text. -/
def Broker.marks (b : Broker) (text : String) (r : Option Request) : List Mark :=
  (b.replies r).flatMap fun reply =>
    .asked reply.2 :: if reply.2 then [] else [.status (.error text)]

def Entry.marks (entries : List Entry) : List Mark := entries.filterMap (·.note.event.mark?)

theorem Entry.marks_append (log new : List Entry) :
    Entry.marks (log ++ new) = Entry.marks log ++ Entry.marks new := List.filterMap_append

/-- The marks of what has got an answer: a failure is marked before the request is made, a success
after it. -/
def endMarks (failure : Option String) (asking : List Mark) : List Mark :=
  match failure with
  | none => asking ++ [.status .ok]
  | some reason => .status (.error reason) :: asking

namespace Desk

/-- The marks of the work at the desk so far. -/
def marks (d : Desk) : List Mark := d.notes.filterMap (·.event.mark?)

section
variable (d : Desk) (e : Event) (r : Request) (l : Ledger)

@[simp] theorem noted_marks : (d.noted e).marks = d.marks ++ e.mark?.toList := by
  unfold marks noted
  rw [List.filterMap_append]
  cases h : e.mark? <;> simp [h]

@[simp] theorem called_marks :
    (d.called r).marks = d.marks ++ [.asked (d.broker.call r).1.isOk] :=
  noted_marks d _

@[simp] theorem withLedger_marks : (d.withLedger l).marks = d.marks := rfl

end
end Desk

attribute [simp] Event.mark?

namespace Consumer
variable (k : Consumer) (d : Delivery) (id : String) (desk : Desk)

theorem markBroken_marks (e : BrokerError) (tag : Nat) (message status : String) :
    ((markBroken e tag message status).run desk).2.marks =
      desk.marks ++ [.status (.error status)] := by
  change ((desk.noted _).noted _).marks = _
  simp

@[simp] theorem acknowledged_marks :
    (k.acknowledged d desk).marks =
      desk.marks ++ desk.broker.marks "error to ack msg" (k.ackOf? d .acked) := by
  unfold acknowledged ackOf?
  cases h : k.contract.autoAck with
  | true => rw [acknowledge_autoAck k d desk h]; simp [Broker.marks]
  | false =>
    rw [acknowledge_manual k d desk h]
    cases hr : (desk.broker.call (.ack d.tag false)).1 with
    | ok => simp [Broker.marks, hr, Except.isOk, Except.toBool]
    | error e =>
      rw [markBroken_marks]
      simp [Broker.marks, hr, Except.isOk, Except.toBool]

@[simp] theorem reported_marks (reason : String) :
    (reported id desk reason).marks = desk.marks ++ [.status (.error reason)] := by
  simp [reported]

section
variable (answer : Answer)

theorem retry_marks {reason : String} (h : answer.result = .error (.failed reason)) :
    ((k.retry d id reason).run desk).2.marks = desk.marks ++ desk.broker.marks "error to ack msg"
      (k.ackOf? d (k.verdict (desk.ledger.get id) answer)) := by
  cases ha : k.contract.autoAck with
  | true =>
    obtain ⟨facts, hr⟩ := retry_lost k d id desk reason ha
    rw [hr]
    simp [ackOf?, ha, Broker.marks]
  | false =>
    by_cases hc : k.contract.maxRetry ≤ desk.ledger.get id
    · obtain ⟨facts, hr⟩ := retry_exhausted k d id desk reason ha hc
      have hv : k.verdict (desk.ledger.get id) answer = .exhausted := by simp [verdict, h, ha, hc]
      rw [hr, hv, k.ackOf?_of_ne d (r := .exhausted) (by decide)]
      simp
    · obtain ⟨facts, hr⟩ := retry_requeued k d id desk reason ha hc
      have hv : k.verdict (desk.ledger.get id) answer = .requeued := by simp [verdict, h, ha, hc]
      rw [hr, hv, ackOf?_requeued]
      simp [Broker.marks]

theorem conclude_marks :
    ((k.conclude d id answer).run desk).2.marks = desk.marks ++ endMarks answer.failure?
      (desk.broker.marks "error to ack msg"
        (k.ackOf? d (k.verdict (desk.ledger.get id) answer))) := by
  cases h : answer.result with
  | ok u =>
    have hv : k.verdict (desk.ledger.get id) answer = .acked := by simp [verdict, h]
    rw [conclude_done k d id desk h, hv]
    simp [Answer.failure?, h, endMarks]
  | error e =>
    cases e with
    | malformed reason =>
      obtain ⟨facts, hr⟩ := conclude_malformed k d id desk h
      have hv : k.verdict (desk.ledger.get id) answer = .poisoned := by simp [verdict, h]
      rw [hr, hv, k.ackOf?_of_ne d (r := .poisoned) (by decide)]
      simp [Answer.failure?, h, endMarks]
    | failed reason =>
      rw [conclude_failed k d id desk h, retry_marks k d id _ _ h]
      simp [Answer.failure?, h, endMarks]

end

theorem giveBack_marks :
    ((giveBack d).run desk).2.marks = desk.marks ++
      desk.broker.marks "error to requeuing msg" (some (.nack d.tag false true)) := by
  rw [giveBack_run]
  cases hr : (desk.broker.call (.nack d.tag false true)).1 with
  | ok =>
    exact (Desk.noted_marks _ _).trans (by simp [Broker.marks, hr, Except.isOk, Except.toBool])
  | error e =>
    refine (Desk.noted_marks _ _).trans ?_
    rw [markBroken_marks]
    simp [Broker.marks, hr, Except.isOk, Except.toBool]

theorem accept_error_marks {e : EnvelopeError}
    (h : Envelope.decode k.contract.payloadType d.message.body = .error e) :
    ((k.accept d).run desk).2.marks = desk.marks ++ .status (.error e.message) ::
      desk.broker.marks "error to ack msg" (k.ackOf? d .poisoned) := by
  obtain ⟨facts, hr⟩ := k.accept_run_error d desk h
  rw [hr, k.ackOf?_of_ne d (r := .poisoned) (by decide)]
  simp

theorem accept_ok_marks {e : Envelope}
    (h : Envelope.decode k.contract.payloadType d.message.body = .ok e) :
    ((k.accept d).run desk).2.marks = desk.marks := by
  unfold accept
  rw [h]
  exact ((Desk.noted_marks _ _).trans (congrArg (· ++ _) (Desk.noted_marks desk _))).trans (by simp)

/-- What goes wrong with a delivery that is handed over now, apart from requests: its body is no
envelope, or its handler does not succeed. -/
def failure? (k : Consumer) (desk : Desk) (d : Delivery) : Option String :=
  match Envelope.decode k.contract.payloadType d.message.body with
  | .ok e => (k.turn desk e.payload).answer.failure?
  | .error e => some e.message

section
variable {k : Consumer} {d : Delivery}

theorem failure?_ok (desk : Desk) {e : Envelope}
    (h : Envelope.decode k.contract.payloadType d.message.body = .ok e) :
    k.failure? desk d = (k.turn desk e.payload).answer.failure? := by
  unfold failure?
  rw [h]

theorem failure?_error (desk : Desk) {e : EnvelopeError}
    (h : Envelope.decode k.contract.payloadType d.message.body = .error e) :
    k.failure? desk d = some e.message := by
  unfold failure?
  rw [h]

end
end Consumer

theorem Answer.failure?_of_fails {a : Answer} (h : a.fails = true) :
    ∃ reason, a.failure? = some reason := by
  unfold fails at h
  unfold failure?
  split at h
  · next reason hr => exact ⟨reason, by rw [hr]⟩
  · cases h

namespace Session

section
variable (s : Session) (sub : Subscription) (t : Task)

/-- Nothing that leaves a mark is kept from any journal. -/
theorem attend_marks {α : Type} (serial tag : Nat) (work : StateM Desk α) :
    Entry.marks (s.since (s.attend sub serial tag work).2) =
      (work.run (s.desk sub.ledger)).2.marks := by
  have hs : s.since (s.attend sub serial tag work).2 = _ := since_eq rfl
  rw [hs]
  refine Entry.filterMap_heard Event.mark? _ _ _ ?_ _
  intro e he
  cases e <;> first | rfl | cases he

theorem arrive_marks (stream : Nat) (message : Message) (tag : Option Nat) :
    Entry.marks (s.since (s.arrive sub stream message tag)) =
      ((sub.consumer.accept (s.handed stream message tag)).run
        ((s.handing stream message tag).desk sub.ledger)).2.marks := by
  rw [← attend_marks (s.handing stream message tag) sub
    (s.handing stream message tag).broker.handedOver (s.handed stream message tag).tag]
  unfold arrive accept
  dsimp only
  generalize (s.handing stream message tag).attend sub _ _
    (sub.consumer.accept (s.handed stream message tag)) = result
  obtain ⟨_ | ⟨id, turn⟩, s'⟩ := result <;> rfl

theorem conclude_marks (id : String) (answer : Answer) :
    Entry.marks (s.since (s.conclude sub t id answer).2) = endMarks answer.failure?
      (s.broker.marks "error to ack msg"
        (sub.consumer.ackOf? t.delivery (s.verdict sub id answer))) := by
  refine Eq.trans ?_
    (sub.consumer.conclude_marks t.delivery id ((s.dequeue t).desk sub.ledger) answer)
  rw [← attend_marks (s.dequeue t) sub t.serial t.delivery.tag]
  unfold conclude
  generalize (s.dequeue t).attend sub t.serial t.delivery.tag
    (sub.consumer.conclude t.delivery id answer) = result
  obtain ⟨r, s'⟩ := result
  dsimp only
  split <;> rfl

theorem giveBack_marks :
    Entry.marks (s.since ((s.dequeue t).giveBack sub t)) =
      s.broker.marks "error to requeuing msg" (some (.nack t.delivery.tag false true)) :=
  ((s.dequeue t).attend_marks sub t.serial t.delivery.tag _).trans
    (Consumer.giveBack_marks t.delivery ((s.dequeue t).desk sub.ledger))

end

/-- The marks that the requests about a delivery may leave: there is one request at most. -/
inductive Asking : List Mark → Prop
  | unasked : Asking []
  | granted : Asking [.asked true]
  | broken (text : String) : Asking [.asked false, .status (.error text)]

theorem asking_marks (b : Broker) (text : String) (r : Option Request) :
    Asking (b.marks text r) := by
  cases r with
  | none => exact .unasked
  | some r =>
    unfold Broker.marks
    cases hr : (b.call r).1 with
    | ok => simpa [hr, Except.isOk, Except.toBool] using Asking.granted
    | error e => simpa [hr, Except.isOk, Except.toBool] using Asking.broken text

/-- The marks that a delivery has left, and the deliveries under way that have its number, if
`failure` is what goes wrong with it. -/
inductive Spanned : Option String → List Task → List Mark → Prop
  | handling {t : Task} {id : String} {answer : Answer} (stage : t.stage = .handling id answer) :
      Spanned answer.failure? [t] []
  | delayed {t : Task} (stage : t.stage = .delayed) (reason : String) :
      Spanned (some reason) [t] [.status (.error reason)]
  | ended (failure : Option String) {asking : List Mark} (asks : Asking asking) :
      Spanned failure [] (endMarks failure asking)

section
variable {s s' s₁ s₂ : Session} {deed : Deed} {sub : Subscription} {stream n : Nat} {d : Delivery}
  {failure : Option String} {marks : List Mark} {t : Task}

theorem arrive_spanned (hs : s.Sound) (sub : Subscription) (stream : Nat) (message : Message)
    (tag : Option Nat) :
    Spanned (sub.consumer.failure? (s.desk sub.ledger) (s.handed stream message tag))
      ((s.arrive sub stream message tag).tasksOf (s.broker.handedOver + 1))
      (Entry.marks (s.since (s.arrive sub stream message tag))) := by
  rw [arrive_marks]
  cases hd : Envelope.decode sub.consumer.contract.payloadType message.body with
  | error e =>
    have failed : sub.consumer.failure? (s.desk sub.ledger) (s.handed stream message tag) =
        some e.message := Consumer.failure?_error _ hd
    rw [arrive_error_own hs sub stream message tag hd, sub.consumer.accept_error_marks _ _ hd,
      failed]
    exact .ended (some e.message) (asking_marks _ _ _)
  | ok e =>
    rw [arrive_ok_own hs sub stream message tag hd, sub.consumer.accept_ok_marks _ _ hd,
      Consumer.failure?_ok _ hd]
    exact .handling rfl

theorem Spanned.conclude {id : String} {answer : Answer} (hp : Spanned failure [t] marks)
    (hstage : t.stage = .handling id answer) :
    Spanned failure ((s.conclude sub t id answer).2.tasksOf t.serial)
      (marks ++ Entry.marks (s.since (s.conclude sub t id answer).2)) := by
  rw [conclude_tasksOf, tasksOf_dequeue_self, List.nil_append, conclude_marks]
  cases hp with
  | delayed stage => rw [hstage] at stage; cases stage
  | handling stage =>
    obtain ⟨rfl, rfl⟩ := Stage.handling.inj (hstage.symm.trans stage)
    rw [List.nil_append]
    by_cases hr : s.verdict sub id answer = .requeued
    · obtain ⟨reason, failed⟩ := Answer.failure?_of_fails (Consumer.verdict_requeued hr).1
      rw [if_pos ⟨hr, rfl⟩, hr, Consumer.ackOf?_requeued, failed]
      exact .delayed rfl reason
    · rw [if_neg fun h => hr h.1]
      exact .ended _ (asking_marks _ _ _)

theorem Spanned.giveBack (hp : Spanned failure [t] marks) (hstage : t.stage = .delayed) :
    Spanned failure [] (marks ++ Entry.marks (s.since ((s.dequeue t).giveBack sub t))) := by
  rw [giveBack_marks]
  cases hp with
  | handling stage => rw [hstage] at stage; cases stage
  | delayed _ reason =>
    exact .ended (some reason) (asking_marks _ _ _)

variable {allowed : Session → Deed → Prop} {h : List Record}

theorem Run.spanned (run : Run allowed s h s') (hs : s.Sound) (hn : n ≤ s.broker.handedOver)
    (hp : Spanned failure (s.tasksOf n) marks) :
    Spanned failure (s'.tasksOf n) (marks ++ Entry.marks (logOf n h)) := by
  have grown : ∀ log new : List Entry, marks ++ Entry.marks (log ++ new) =
      marks ++ Entry.marks log ++ Entry.marks new := fun log new => by
    rw [Entry.marks_append, List.append_assoc]
  refine run.follow (P := fun tasks log => Spanned failure tasks (marks ++ Entry.marks log)) hs hn
    ((List.append_nil marks).symm ▸ hp) ?_ ?_
  · rintro g s₁ sub t id answer log - - ht rfl - hstage hp
    rw [grown]
    exact hp.conclude hstage
  · rintro g s₁ sub t log - - ht rfl - hstage hp
    rw [grown]
    exact hp.giveBack hstage

/-- The marks of a delivery in a whole run, and which delivery is under way for it at the end. -/
theorem spanned_of_run {s₀ : Session} {before after : List Record} (hs : s₀.Sound)
    (run : Run allowed s₀ before s₁) (m : Move s₁ deed s₂)
    (hd : deed = .arrived sub stream d ∨ deed = .returned sub stream d)
    (run' : Run allowed s₂ after s) :
    Spanned (sub.consumer.failure? (s₁.desk sub.ledger) d) (s.tasksOf (s₁.broker.handedOver + 1))
      (Entry.marks
        (logOf (s₁.broker.handedOver + 1) (before ++ ⟨deed, s₁.since s₂⟩ :: after))) := by
  have hs₁ := run.sound hs
  have hfirst : Spanned (sub.consumer.failure? (s₁.desk sub.ledger) d)
      (s₂.tasksOf (s₁.broker.handedOver + 1))
      (Entry.marks (logOf (s₁.broker.handedOver + 1) [⟨deed, s₁.since s₂⟩])) := by
    rcases hd with rfl | rfl
    · cases m with
      | arrive message tag =>
        rw [(arrive_tells s₁ sub stream message tag rfl).log_self]
        exact arrive_spanned hs₁ sub stream message tag
    · cases m with
      | @again sub p =>
        have hlog := (arrive_tells (s₁.takeReturned p) sub p.stream p.message none rfl).log_self
          (.returned sub p.stream ((s₁.takeReturned p).handed p.stream p.message none))
        have first := arrive_spanned (hs₁.takeReturned p) sub p.stream p.message none
        rw [← hlog] at first
        exact first
  have hnow := Nat.le_of_eq (handedOver_of_handOver m hd).symm
  rw [run.log_handOver hs, Entry.marks_append]
  exact run'.spanned (hs₁.move m) hnow hfirst

end

/-- A span tells whether all went well, requests included: its last status is Ok just in case it
did, otherwise it is an error. -/
def TellsApart (failure : Option String) (marks : List Mark) : Prop :=
  (lastStatus marks = some .ok ↔ failure = none ∧ .asked false ∉ marks) ∧
    (¬ (failure = none ∧ .asked false ∉ marks) → ∃ text, lastStatus marks = some (.error text))

theorem lastStatus_failed {reason : String} {asking : List Mark} (asks : Asking asking) :
    ∃ text, lastStatus (endMarks (some reason) asking) = some (.error text) := by
  cases asks with
  | unasked | granted => exact ⟨reason, rfl⟩
  | broken text => exact ⟨text, rfl⟩

/-- The last status of a delivery's span is Ok just in case the body is read and the handler
succeeds, otherwise it is an error. So it tells whether anything went wrong unless the handler
succeeds and the request to acknowledge the message fails: this failure is marked, and then
the success. -/
theorem span_tells_iff {s₀ s₁ s₂ s : Session} {before after : List Record} {deed : Deed}
    {sub : Subscription} {stream : Nat} {d : Delivery} (hs : s₀.Sound)
    (run : Run (fun _ _ => True) s₀ before s₁) (m : Move s₁ deed s₂)
    (hd : deed = .arrived sub stream d ∨ deed = .returned sub stream d)
    (run' : Run (fun _ _ => True) s₂ after s)
    (ended : s.tasksOf (s₁.broker.handedOver + 1) = []) :
    let marks := Entry.marks
      (logOf (s₁.broker.handedOver + 1) (before ++ ⟨deed, s₁.since s₂⟩ :: after))
    let failure := sub.consumer.failure? (s₁.desk sub.ledger) d
    (lastStatus marks = some .ok ↔ failure = none) ∧
      (failure ≠ none → ∃ text, lastStatus marks = some (.error text)) ∧
      (TellsApart failure marks ↔ (failure = none → .asked false ∉ marks)) := by
  intro marks failure
  have spanned : Spanned failure (s.tasksOf (s₁.broker.handedOver + 1)) marks :=
    spanned_of_run hs run m hd run'
  clear_value marks failure
  rw [ended] at spanned
  cases spanned with
  | @ended _ asking asks =>
    cases failure with
    | none =>
      have hok : lastStatus (endMarks none asking) = some .ok := lastStatus_status asking .ok
      refine ⟨iff_of_true hok rfl, fun h => absurd rfl h, fun tells _ => (tells.1.mp hok).2, ?_⟩
      intro quiet
      exact ⟨iff_of_true hok ⟨rfl, quiet rfl⟩, fun h => absurd ⟨rfl, quiet rfl⟩ h⟩
    | some reason =>
      obtain ⟨text, herror⟩ : ∃ text, lastStatus (endMarks (some reason) asking) =
          some (.error text) := lastStatus_failed asks
      have hnot : lastStatus (endMarks (some reason) asking) ≠ some .ok := by
        rw [herror]
        exact nofun
      refine ⟨iff_of_false hnot nofun, fun _ => ⟨text, herror⟩, fun _ => nofun, fun _ => ?_⟩
      exact ⟨iff_of_false hnot nofun, fun _ => ⟨text, herror⟩⟩

set_option maxRecDepth 100000 in
/-- The span of a message that fails and is given back. -/
theorem span_tells_failure : ∃ s h,
    Run (fun _ _ => True) (Trial.session [Trial.subscription 1 2]) h s ∧ s.tasksOf 1 = [] ∧
    lastStatus (Entry.marks (logOf 1 h)) = some (.error "no") ∧
    TellsApart (some "no") (Entry.marks (logOf 1 h)) := by
  let sub := Trial.subscription 1 2
  have fresh : (Trial.session [sub]).Fresh := ⟨rfl, rfl, rfl, rfl⟩
  have arrived := @Move.arrive (Trial.session [sub]) sub 0 Trial.message none rfl (by decide)
  have known := arrived.known (n := 0) rfl
  have failed := Move.conclude (t := Trial.task 1 0 Trial.failure) (by decide +kernel) known rfl
  have known := failed.known known
  have back := Move.giveBack
    (t := { Trial.task 1 0 Trial.failure with due := 1000, stage := .delayed })
    (by decide +kernel) known rfl
  have after : Run (fun _ _ => True) _ _ _ := (Run.start.next failed trivial).next back trivial
  have tells := span_tells_iff fresh.sound .start arrived (.inl rfl) after (by decide +kernel)
  have hfailure : sub.consumer.failure? ((Trial.session [sub]).desk sub.ledger)
      ((Trial.session [sub]).handed 0 Trial.message none) = some "no" := by decide +kernel
  rw [hfailure] at tells
  exact ⟨_, _, (Run.single arrived trivial).append after, by decide +kernel, by decide +kernel,
    tells.2.2.mpr nofun⟩

set_option maxRecDepth 100000 in
/-- The handler succeeds, the message is not acknowledged, and the span says that all is well. -/
theorem broken_ack_untold : ∃ s h,
    Run (fun _ _ => True) { Trial.session [Trial.subscription 0 0] with
      broker := { streams := [⟨"q", true⟩], faults := [(.ack, [some .ack])] } } h s ∧
    s.tasksOf 1 = [] ∧
    Entry.marks (logOf 1 h) =
      [.asked false, .status (.error "error to ack msg"), .status .ok] ∧
    ¬ TellsApart none (Entry.marks (logOf 1 h)) := by
  let sub := Trial.subscription 0 0
  let start : Session := { Trial.session [sub] with
    broker := { streams := [⟨"q", true⟩], faults := [(.ack, [some .ack])] } }
  have arrived := @Move.arrive start sub 0 Trial.message none rfl (by decide)
  have known := arrived.known (n := 0) rfl
  have done := Move.conclude (t := Trial.task 1 0 .done) (by decide +kernel) known rfl
  have run : Run (fun _ _ => True) _ _ _ := (Run.single arrived trivial).next done trivial
  exact ⟨_, _, run, by decide +kernel, by decide +kernel,
    fun tells => (tells.1.mp (by decide +kernel)).2 (by decide +kernel)⟩

end Session
end Courier
