import Courier.Proofs.Script
import Courier.Publication

/-! What publishers do: a payload is persisted under a new id, and published by one request. -/
namespace Courier

theorem Broker.after_confirm (b : Broker) (r : Request) : (b.after r).confirm = b.confirm := by
  cases r with
  | publish =>
    unfold after
    dsimp only
    split <;> rfl
  | nack tag multiple requeue =>
    unfold after takeBack
    dsimp only
    split
    · rfl
    · split <;> rfl
  | _ => rfl

/-- Whether publishing is confirmed is settled once for all. -/
theorem Broker.call_confirm (b : Broker) (r : Request) : (b.call r).2.confirm = b.confirm := by
  rw [call_eq]
  split
  · rfl
  · exact after_confirm _ r

namespace Contract
open Desk
section
variable (c : Contract) (key : String) (context : List (String × String)) (e : Envelope)

/-- The body in which an envelope is published, if it can be. -/
def packing : Except PublishError Bytes :=
  if c.exchange.payloadTag ≠ c.payloadType.tag then
    .error (.typeMismatch c.exchange.payloadTag c.payloadType.tag)
  else (e.encode c.payloadType).mapError .serialize

/-- The requests that publish an envelope, and what this gives if none of them fails. -/
def sending (confirm : Bool) : Script PublishError × Except PublishError String :=
  match c.packing e with
  | .error error => ([], .error error)
  | .ok body =>
    ((.publish c.exchange.name key (TraceContext.inject context) body, .broker) ::
      if confirm then [(.waitForConfirms confirmTimeout, fun error => .notConfirmed error.message)]
      else [], .ok e.id)

variable {c}

theorem reviewPersisting_plays (persisted : Except HandlerError Unit) (d : Desk) :
    d.Plays (c.reviewPersisting e key persisted) [] (.ok ()) := by
  unfold reviewPersisting
  cases persisted with
  | ok => exact Plays.pure d ()
  | error => exact Plays.log d _ _ _

theorem body_plays (d : Desk) : d.Plays (c.body e) [] (c.packing e) := by
  unfold body packing
  by_cases htag : c.exchange.payloadTag ≠ c.payloadType.tag
  · rw [if_pos htag, if_pos htag]
    refine (Plays.log d _ _ _).quietly fun d' _ => ?_
    exact (Plays.throw d' _).fail
  · rw [if_neg htag, if_neg htag]
    cases e.encode c.payloadType with
    | ok bytes => exact Plays.pure d bytes
    | error reason =>
      refine (Plays.log d _ _ _).quietly fun d' _ => ?_
      exact Plays.throw d' _

theorem confirm_plays (id : String) (d : Desk) :
    d.Plays (confirm id key)
      (if d.broker.confirm then
        [(.waitForConfirms confirmTimeout, fun error => .notConfirmed error.message)]
      else []) (.ok ()) := by
  unfold confirm
  refine Plays.get ?_
  split
  · refine Plays.call d _ _ (fun d' => Plays.pure d' ()) fun d' cause => ?_
    exact (Plays.log d' _ _ _).quietly fun d'' _ => Plays.throw d'' _
  · exact Plays.pure d ()

/-- Publishing an envelope comes to its script. -/
theorem send_plays (persisted : Except HandlerError Unit) (d : Desk) :
    d.Plays (c.send key context e persisted) (c.sending key context e d.broker.confirm).1
      (c.sending key context e d.broker.confirm).2 := by
  have hbody := fun d => body_plays (c := c) e d
  unfold send sending
  cases hpack : c.packing e with
  | error error =>
    refine (reviewPersisting_plays key e persisted d).quietly fun d' _ => ?_
    have hd := hbody d'
    rw [hpack] at hd
    exact hd.fail
  | ok body =>
    refine (reviewPersisting_plays key e persisted d).quietly fun d₁ h₁ => ?_
    have hd := hbody d₁
    rw [hpack] at hd
    refine hd.quietly fun d₂ h₂ => ?_
    refine (Plays.require d₂ _ _).bind fun d₃ h₃ => ?_
    have hconfirm : d₃.broker.confirm = d.broker.confirm := by
      rw [h₃, Broker.play_single, Broker.call_confirm, h₂, h₁]
    have hconfirmed := confirm_plays key e.id d₃
    rw [hconfirm] at hconfirmed
    exact hconfirmed.giving e.id

end

section
variable {c : Contract}

/-- Nothing else is published than the envelope, to the contract's exchange with the key, and with
the trace context in the headers. -/
theorem sending_publishes {key : String} {context : List (String × String)} {e : Envelope}
    {confirm : Bool} {step : Request × (BrokerError → PublishError)}
    (h : step ∈ (c.sending key context e confirm).1) {exchange key' : String} {headers : Headers}
    {body : Bytes} (hr : step.1 = .publish exchange key' headers body) :
    exchange = c.exchange.name ∧ key' = key ∧ headers = TraceContext.inject context := by
  unfold sending at h
  split at h
  · cases h
  · rcases List.mem_cons.mp h with rfl | h
    · cases hr
      exact ⟨rfl, rfl, rfl⟩
    · split at h
      · rw [List.mem_singleton.mp h] at hr
        cases hr
      · cases h

theorem packing_ok {e : Envelope} {body : Bytes} (h : c.packing e = .ok body) :
    e.encode c.payloadType = .ok body := by
  unfold packing at h
  split at h
  · cases h
  · cases he : e.encode c.payloadType with
    | ok bytes => rw [he] at h; cases h; rfl
    | error reason => rw [he] at h; cases h

/-- What is published when all goes well. -/
theorem sending_ok {key : String} {context : List (String × String)} {e : Envelope} {id : String}
    {b : Broker} {confirm : Bool}
    (h : (b.play (c.sending key context e confirm).1).1.bind
      (fun _ => (c.sending key context e confirm).2) = .ok id) :
    ∃ body rest, id = e.id ∧ e.encode c.payloadType = .ok body ∧
      (rest = [] ∨ rest = [(.waitForConfirms confirmTimeout, true)]) ∧
      b.trace (c.sending key context e confirm).1 =
        (.publish c.exchange.name key (TraceContext.inject context) body, true) :: rest := by
  cases hplay : (b.play (c.sending key context e confirm).1).1 with
  | error error =>
    rw [hplay] at h
    cases h
  | ok =>
    rw [hplay] at h
    rw [Broker.trace_of_ok hplay]
    unfold sending at h ⊢
    cases hpack : c.packing e with
    | error error =>
      rw [hpack] at h
      cases h
    | ok body =>
      rw [hpack] at h
      cases h
      refine ⟨body, _, rfl, packing_ok hpack, ?_, rfl⟩
      cases confirm
      · exact Or.inl rfl
      · exact Or.inr rfl

end
end Contract
end Courier
