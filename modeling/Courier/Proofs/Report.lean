import Courier.Proofs.Envelope
import Courier.Proofs.Session.Move
import Courier.Proofs.Session.Publishing

/-! What a publisher is told matches what has happened: the error names the first thing that went
wrong, and the requests made until then are known. -/
namespace Courier

namespace Contract

/-- What publishing an envelope comes to: the requests that are made, and what the publisher is
told. What goes wrong first decides. -/
def report (c : Contract) (b : Broker) (key : String) (context : List (String × String))
    (e : Envelope) : List (Request × Bool) × Except PublishError String :=
  if c.exchange.payloadTag ≠ c.payloadType.tag then
    ([], .error (.typeMismatch c.exchange.payloadTag c.payloadType.tag))
  else match e.encode c.payloadType with
    | .error reason => ([], .error (.serialize reason))
    | .ok body =>
      let publish := Request.publish c.exchange.name key (TraceContext.inject context) body
      let wait := Request.waitForConfirms 5000
      match b.fault? publish with
      | some error => ([(publish, false)], .error (.broker error))
      | none =>
        if !b.confirm then ([(publish, true)], .ok e.id)
        else match b.fault? wait with
          | some error =>
            ([(publish, true), (wait, false)], .error (.notConfirmed error.message))
          | none => ([(publish, true), (wait, true)], .ok e.id)

section
variable {c : Contract} (key : String) (context : List (String × String)) (e : Envelope)

/-- The script of an envelope, played by a broker with these plans, comes to the report. -/
theorem sending_report {b b' : Broker}
    (same : ∀ r : Request, r.rpc ≠ .ack → r.rpc ≠ .nack → b'.fault? r = b.fault? r) :
    let sending := c.sending key context e b.confirm
    c.report b key context e =
      (b'.trace sending.1, (b'.play sending.1).1.bind fun _ => sending.2) := by
  have hpublish : ∀ body, b'.fault? (.publish c.exchange.name key (TraceContext.inject context)
      body) = b.fault? (.publish c.exchange.name key (TraceContext.inject context) body) :=
    fun _ => same _ Rpc.noConfusion Rpc.noConfusion
  have hwait : b'.fault? (.waitForConfirms confirmTimeout) = b.fault? (.waitForConfirms 5000) :=
    same _ Rpc.noConfusion Rpc.noConfusion
  unfold report sending packing
  by_cases htag : c.exchange.payloadTag = c.payloadType.tag
  · rw [if_neg (not_not_intro htag), if_neg (not_not_intro htag)]
    cases e.encode c.payloadType with
    | error reason => rfl
    | ok body =>
      dsimp only [Except.mapError]
      rw [← hpublish body, ← hwait]
      cases b.confirm with
      | false =>
        have hstops := b'.play_stops [(.publish c.exchange.name key (TraceContext.inject context)
          body, PublishError.broker)] (by simp)
        simp only [Bool.not_false, if_true, Bool.false_eq_true, if_false]
        generalize b'.trace _ = made, (b'.play _).1 = result at hstops ⊢
        rcases hstops with _ | ⟨planned, ⟨⟩⟩ | planned
        · rw [planned]
          rfl
        · rw [planned]
          rfl
      | true =>
        have hstops := b'.play_stops [(.publish c.exchange.name key (TraceContext.inject context)
          body, PublishError.broker), (.waitForConfirms confirmTimeout,
            fun error => .notConfirmed error.message)] (by simp [Request.rpc])
        simp only [Bool.not_true, Bool.false_eq_true, if_false, if_true]
        generalize b'.trace _ = made, (b'.play _).1 = result at hstops ⊢
        rcases hstops with _ | ⟨planned, _ | ⟨waited, ⟨⟩⟩ | waited⟩ | planned
        · rw [planned, waited]
          rfl
        · rw [planned, waited]
          rfl
        · rw [planned]
          rfl
  · rw [if_pos htag, if_pos htag]
    rfl

end

theorem key_error (c : Contract) (env : String) :
    c.exchange.kind.broadcasts = false →
      c.key env true = .error (.unsupportedExchangeKind c.exchange.kind.name) := by
  intro h
  unfold key
  rw [h]
  rfl

end Contract

namespace Session
variable (s : Session) (label : String) (c : Contract) (context : List (String × String))
  (payload : Payload)

/-- A broadcast by an exchange that cannot broadcast is refused, and nothing is done. -/
theorem publish_refused (h : c.exchange.kind.broadcasts = false) :
    (s.publish label c true context payload).1 =
        .error (.unsupportedExchangeKind c.exchange.kind.name) ∧
      s.Enters (s.publish label c true context payload).2 [] ∧
      (s.publish label c true context payload).2.persisted = s.persisted := by
  obtain ⟨hgiven, -, hkeyed⟩ := work_routingKey s c true
  have hpersisted := work_persisted s c (Made.routingKey c s.env true)
  rw [c.key_error s.env h] at hgiven
  rw [publish_of_error s label c context payload hgiven]
  exact ⟨rfl, hkeyed, hpersisted⟩

/-- A message that has a routing key is persisted once, before anything else, and then the report
says what happens. -/
theorem publish_reported (broadcast : Bool) {key : String}
    (hkey : c.key s.env broadcast = .ok key) :
    let e : Envelope := ⟨MessageId.ofNat s.drawn, payload⟩
    let out := s.publish label c broadcast context payload
    let report := c.report s.broker key context e
    out.1 = report.2 ∧
      Entry.own (s.since out.2) = (.persisted c.payloadType e.id payload ::
        report.1.map fun made => .request made.1 made.2).filter c.handler.hears ∧
      out.2.persisted = s.persisted.put label ((s.persisted.get? label).getD 0 + 1) := by
  intro e out report
  obtain ⟨b, hsame, hgiven, hentered, hpersisted⟩ :=
    s.publish_plays label c broadcast context payload hkey
  have hreport : report = _ := Contract.sending_report key context e hsame
  refine ⟨?_, ?_, hpersisted⟩
  · rw [hreport]
    exact hgiven
  · rw [hentered.own_since, hreport]

/-- A broadcast by a direct or default exchange is refused before anything else. Otherwise the
message is persisted exactly once, and whatever comes of that has no part in the rest: the publisher
is told, by one rule of precedence, what went wrong first among the type of the payload, its
encoding, the request to publish and, in confirm mode, the confirmation; and just the requests until
then have been made. The id that is given is the one that was persisted, and the one in the body. -/
theorem told_what_happened (broadcast : Bool) :
    let e : Envelope := ⟨MessageId.ofNat s.drawn, payload⟩
    let out := s.publish label c broadcast context payload
    let done := Entry.own (s.since out.2)
    (broadcast = true ∧ c.exchange.kind.broadcasts = false →
      out.1 = .error (.unsupportedExchangeKind c.exchange.kind.name) ∧ done = [] ∧
        out.2.persisted = s.persisted) ∧
    (¬ (broadcast = true ∧ c.exchange.kind.broadcasts = false) →
      let report := c.report s.broker (if broadcast then "" else c.address s.env) context e
      out.1 = report.2 ∧
        done = (.persisted c.payloadType e.id payload ::
          report.1.map fun made => .request made.1 made.2).filter c.handler.hears ∧
        out.2.persisted = s.persisted.put label ((s.persisted.get? label).getD 0 + 1) ∧
        (∀ body, e.encode c.payloadType = .ok body →
          body = (Json.Value.object [("id", .text e.id), ("msg", payload)]).bytes) ∧
        ∀ persist : Nat → Persisting,
          let other := s.publish label { c with handler := { c.handler with persist } } broadcast
            context payload
          other.1 = out.1 ∧ Entry.own (s.since other.2) = done) := by
  intro e out done
  refine ⟨?_, ?_⟩
  · rintro ⟨rfl, hkind⟩
    obtain ⟨hgiven, hentered, hpersisted⟩ := s.publish_refused label c context payload hkind
    exact ⟨hgiven, hentered.own_since, hpersisted⟩
  · intro hkind report
    have hkey : c.key s.env broadcast = .ok (if broadcast then "" else c.address s.env) := by
      unfold Contract.key
      cases broadcast with
      | false => rfl
      | true =>
        have hbroadcasts : c.exchange.kind.broadcasts = true := by simpa using hkind
        rw [hbroadcasts]
        rfl
    obtain ⟨hgiven, hdone, hpersisted⟩ :=
      s.publish_reported label c context payload broadcast hkey
    refine ⟨hgiven, hdone, hpersisted, fun body hbody => Envelope.body_of_encode hbody, ?_⟩
    intro persist other
    obtain ⟨hgiven', hdone', -⟩ := s.publish_reported label
      { c with handler := { c.handler with persist } } context payload broadcast hkey
    exact ⟨hgiven'.trans hgiven.symm, hdone'.trans hdone.symm⟩

end Session

namespace Trial

/-- A broker that does not confirm the first message. -/
def doubting : Session :=
  { home with
    broker := { confirm := true, faults := [(.waitForConfirms, [some .confirmTimeout])] } }

/-- A contract whose messages cannot be persisted. -/
def forgetful : Contract :=
  { contract 0 0 with
    handler := { (contract 0 0).handler with persist := fun _ => ⟨0, .error (.failed "no")⟩ } }

end Trial

namespace Session
open Trial

/-- The message has been published, and the publisher is told that it is not confirmed. -/
theorem unconfirmed_told :
    (doubting.publish "p" forgetful false [] (.text "x")).1 =
      .error (.notConfirmed "timed out waiting for publisher confirms") ∧
    Entry.own (doubting.since (doubting.publish "p" forgetful false [] (.text "x")).2) =
      [.persisted .text (MessageId.ofNat 0) (.text "x"),
        .request (.publish "" (forgetful.address "dev") []
          (⟨MessageId.ofNat 0, .text "x"⟩ : Envelope).toValue.bytes) true,
        .request (.waitForConfirms 5000) false] := by
  obtain ⟨hgiven, hdone, -⟩ := (told_what_happened doubting "p" forgetful [] (.text "x") false).2
    (by simp)
  exact ⟨hgiven, hdone⟩

end Session
end Courier
