import Courier.Proofs.Fault
import Courier.Proofs.Registration
import Courier.Proofs.Session.Aside

/-! What a call that registers a contract asks of the broker, and what it gives: it depends on the
claims, on the contract, and on the first request that is planned to fail. -/
namespace Courier

namespace Contract

/-- The requests that are made for a valid contract if none of them fails. Those for the queue are
not made when the exchange carries other payloads. -/
def asked (c : Contract) (env : String) : List Request :=
  if c.exchange.payloadTag = c.payloadType.tag then c.subscribing env
  else if c.exchange.isDefault then [] else [.declareExchange c.exchange]

section
variable {c : Contract} (env : String)

theorem asked_first : c.asked env <+: c.subscribing env := by
  unfold asked
  split
  · exact List.prefix_rfl
  · unfold subscribing declaring
    cases c.exchange.isDefault with
    | true => exact List.nil_prefix
    | false => exact ⟨_, rfl⟩

/-- No two of the requests are of one kind. -/
theorem asked_distinct : ((c.asked env).map Request.rpc).Nodup := by
  have hall : ((c.subscribing env).map Request.rpc).Nodup := by
    unfold subscribing declaring
    cases c.exchange.isDefault <;> simp [Request.rpc]
  exact hall.sublist ((asked_first env).sublist.map _)

theorem subscription_invalid {fault : ContractFault} (h : c.validate = .error fault) :
    c.subscription env = ([], .error fault.error) := by
  unfold subscription declaration
  rw [h]

theorem subscription_valid (h : c.validate = .ok ()) :
    c.subscription env = ((c.asked env).map fun r => (r, .broker),
      if c.exchange.payloadTag = c.payloadType.tag then .ok ()
      else .error (.typeMismatch c.exchange.payloadTag c.payloadType.tag)) := by
  unfold subscription declaration asked
  rw [h]
  dsimp only
  by_cases htag : c.exchange.payloadTag = c.payloadType.tag
  · rw [if_neg (not_not_intro htag), if_pos htag, if_pos htag]
    unfold exchangeScript queueScript subscribing declaring
    cases c.exchange.isDefault <;> rfl
  · rw [if_pos htag, if_neg htag, if_neg htag]
    unfold exchangeScript
    cases c.exchange.isDefault <;> rfl

/-- Subscribing for a valid contract goes as planned. -/
theorem subscribe_stops (valid : c.validate = .ok ()) (d : Desk) :
    ∃ made outcome, ((c.subscribe env).run.run d).2.requests = d.requests ++ made ∧
      d.broker.Stops ((c.asked env).map fun r => (r, TopologyError.broker)) made outcome ∧
      ((c.subscribe env).run.run d).1 = outcome.bind fun _ =>
        if c.exchange.payloadTag = c.payloadType.tag then .ok ()
        else .error (.typeMismatch c.exchange.payloadTag c.payloadType.tag) := by
  have hplays := subscribe_plays (c := c) env d
  rw [subscription_valid env valid] at hplays
  refine ⟨_, _, hplays.requests, Broker.play_stops _ _ ?_, hplays.given⟩
  rw [List.map_map]
  exact asked_distinct env

theorem subscribe_invalid {fault : ContractFault} (h : c.validate = .error fault) (d : Desk) :
    ((c.subscribe env).run.run d).1 = .error fault.error ∧
      ((c.subscribe env).run.run d).2.requests = d.requests := by
  have hplays := subscribe_plays (c := c) env d
  rw [subscription_invalid env h] at hplays
  exact ⟨hplays.given, hplays.requests.trans (List.append_nil _)⟩

theorem consumed_subscribing :
    consumed ((c.subscribing env).map fun r => (r, true)) = [c.address env] := by
  unfold subscribing declaring
  cases c.exchange.isDefault <;> rfl

end
end Contract

namespace Session
section
variable {s : Session} {n : Nat} {d : Dispatcher} (label : String) (c : Contract)

/-- With a free address, a call comes to subscribing. -/
theorem registration_free (hd : s.dispatchers[n]? = some d)
    (hfree : (s.claims n).owners.get? (c.address s.env) = none) :
    (s.registration label c n).result =
        ((c.subscribe s.env).run.run (s.desk d.ledger)).1.map (fun _ => s.subscriptions.length) ∧
      (s.registration label c n).requests =
        ((c.subscribe s.env).run.run (s.desk d.ledger)).2.requests := by
  obtain ⟨hresult, hrequests, -, -⟩ := register_eq label c hd
  rw [claims_eq hd] at hfree
  obtain ⟨hout, hsame⟩ := Contract.register_claiming
    (Registry.register_free (c.address_not_blank s.env) hfree) (s.desk d.ledger)
  rw [hout] at hresult
  exact ⟨hresult, hrequests.trans hsame⟩

/-- A loop is started when the call succeeds, on a stream of its own. -/
theorem register_starts (hd : s.dispatchers[n]? = some d) :
    let loops := (s.registration label c n).result.isOk
    (s.register label c n).2.subscriptions = s.subscriptions ++
        (if loops then [⟨⟨label, c, c.address s.env⟩, d.ledger⟩] else []) ∧
      (s.register label c n).2.broker.streams = s.broker.streams ++
        (if loops then [⟨c.address s.env, true⟩] else []) := by
  have hstreams := (c.register_beside s.env (s.desk d.ledger) d.registry).streams
  unfold registration register
  rw [hd]
  unfold act
  dsimp only
  generalize (c.register s.env d.registry).run (s.desk d.ledger) = out at hstreams ⊢
  obtain ⟨⟨_ | _, registry⟩, d'⟩ := out
  · exact ⟨(List.append_nil _).symm, hstreams⟩
  · exact ⟨rfl, hstreams⟩

/-- A call succeeds just when it has made all the requests of a subscription with success. -/
theorem registered_iff (hd : s.dispatchers[n]? = some d) :
    (s.registration label c n).result.isOk = true ↔
      (s.registration label c n).requests = (c.subscribing s.env).map fun r => (r, true) := by
  cases hreg : d.registry.register (c.address s.env) c.payloadType.tag with
  | error e =>
    obtain ⟨hresult, hrequests, -⟩ := refused label c hd hreg
    rw [hresult, hrequests]
    constructor
    · intro h
      cases h
    · intro h
      have hconsumed := Contract.consumed_subscribing (c := c) s.env
      rw [← h] at hconsumed
      cases hconsumed
  | ok claimed =>
    obtain ⟨hfree, -⟩ := Registry.register_ok hreg
    rw [← claims_eq hd] at hfree
    obtain ⟨hresult, hrequests⟩ := registration_free label c hd hfree
    have hconsumes := Contract.subscribe_consumes s.env (s.desk d.ledger) (c := c)
    have hmade := Contract.subscribe_requests s.env (d := s.desk d.ledger) (c := c)
    rw [hresult, hrequests]
    cases hsub : ((c.subscribe s.env).run.run (s.desk d.ledger)).1 with
    | ok => exact ⟨fun _ => hmade hsub, fun _ => rfl⟩
    | error e =>
      rw [hsub] at hconsumes
      constructor
      · intro h
        cases h
      · intro h
        rw [h, Contract.consumed_subscribing] at hconsumes
        cases hconsumes

section
variable (hd : s.dispatchers[n]? = some d)
include hd

/-- An address that is held is refused. -/
theorem registration_held {owner : String}
    (h : (s.claims n).owners.get? (c.address s.env) = some owner) :
    (s.registration label c n).requests = [] ∧
      (s.registration label c n).result =
        .error (.duplicateAddress (c.address s.env) owner) := by
  rw [claims_eq hd] at h
  have hreg : d.registry.register (c.address s.env) c.payloadType.tag = _ :=
    Registry.register_held (c.address_not_blank s.env) h
  obtain ⟨hresult, hrequests, -⟩ := refused label c hd hreg
  exact ⟨hrequests, hresult⟩

theorem registration_invalid (hfree : (s.claims n).owners.get? (c.address s.env) = none)
    {fault : ContractFault} (h : c.validate = .error fault) :
    (s.registration label c n).requests = [] ∧
      (s.registration label c n).result = .error fault.error := by
  obtain ⟨hresult, hrequests⟩ := registration_free label c hd hfree
  obtain ⟨hgiven, hnone⟩ := Contract.subscribe_invalid s.env h (s.desk d.ledger)
  rw [hgiven] at hresult
  exact ⟨hrequests.trans hnone, hresult⟩

/-- With a free address and a valid contract, a call goes as planned. -/
theorem registration_stops (hfree : (s.claims n).owners.get? (c.address s.env) = none)
    (h : c.validate = .ok ()) :
    ∃ outcome, s.broker.Stops ((c.asked s.env).map fun r => (r, TopologyError.broker))
        (s.registration label c n).requests outcome ∧
      (s.registration label c n).result = outcome.bind fun _ =>
        if c.exchange.payloadTag = c.payloadType.tag then .ok s.subscriptions.length
        else .error (.typeMismatch c.exchange.payloadTag c.payloadType.tag) := by
  obtain ⟨hresult, hrequests⟩ := registration_free label c hd hfree
  obtain ⟨made, outcome, hmade, hstops, hgiven⟩ :=
    Contract.subscribe_stops s.env h (s.desk d.ledger)
  have hcall : (s.registration label c n).requests = made := hrequests.trans hmade
  refine ⟨outcome, hcall ▸ hstops, ?_⟩
  rw [hresult, hgiven]
  cases outcome with
  | error e => rfl
  | ok =>
    dsimp only [Except.bind]
    split <;> rfl

/-- No other requests are made than those for a subscription, and none is left out on the way. -/
theorem registration_requests :
    (s.registration label c n).requests.map Prod.fst <+: c.subscribing s.env := by
  cases howner : (s.claims n).owners.get? (c.address s.env) with
  | some owner =>
    rw [(registration_held label c hd howner).1]
    exact List.nil_prefix
  | none =>
    cases hvalid : c.validate with
    | error fault =>
      rw [(registration_invalid label c hd howner hvalid).1]
      exact List.nil_prefix
    | ok =>
      obtain ⟨outcome, hstops, -⟩ := registration_stops label c hd howner hvalid
      have hfirst := hstops.made_first
      have hsame : (Prod.fst ∘ fun r : Request => (r, TopologyError.broker)) = id := rfl
      rw [List.map_map, hsame, List.map_id] at hfirst
      exact hfirst.trans (Contract.asked_first s.env)

end

/-- A call that registers a contract asks the broker step by step for a subscription to its queue.
Nothing is asked if the address is held or the contract is invalid. Otherwise the call stops at the
first request that fails, and gives its error; if none fails, exchange and contract must agree on
the type of payloads. The loop is started just when all requests have been made with success. -/
theorem registers_as_planned (hd : s.dispatchers[n]? = some d) :
    let call := s.registration label c n
    let s' := (s.register label c n).2
    call.requests.map Prod.fst <+: c.subscribing s.env ∧
    (∀ owner, (s.claims n).owners.get? (c.address s.env) = some owner →
      call.requests = [] ∧ call.result = .error (.duplicateAddress (c.address s.env) owner)) ∧
    ((s.claims n).owners.get? (c.address s.env) = none →
      (∀ fault, c.validate = .error fault →
        call.requests = [] ∧ call.result = .error fault.error) ∧
      (c.validate = .ok () → ∃ outcome,
        s.broker.Stops ((c.asked s.env).map fun r => (r, TopologyError.broker)) call.requests
          outcome ∧
        call.result = outcome.bind fun _ =>
          if c.exchange.payloadTag = c.payloadType.tag then .ok s.subscriptions.length
          else .error (.typeMismatch c.exchange.payloadTag c.payloadType.tag))) ∧
    (call.result.isOk = true ↔
      call.requests = (c.subscribing s.env).map fun r => (r, true)) ∧
    s'.subscriptions = s.subscriptions ++
      (if call.result.isOk then [⟨⟨label, c, c.address s.env⟩, d.ledger⟩] else []) ∧
    s'.broker.streams = s.broker.streams ++
      (if call.result.isOk then [⟨c.address s.env, true⟩] else []) := by
  intro call s'
  have free : (s.claims n).owners.get? (c.address s.env) = none →
      (∀ fault, c.validate = .error fault →
        call.requests = [] ∧ call.result = .error fault.error) ∧
      (c.validate = .ok () → ∃ outcome,
        s.broker.Stops ((c.asked s.env).map fun r => (r, TopologyError.broker)) call.requests
          outcome ∧
        call.result = outcome.bind fun _ =>
          if c.exchange.payloadTag = c.payloadType.tag then .ok s.subscriptions.length
          else .error (.typeMismatch c.exchange.payloadTag c.payloadType.tag)) := by
    intro hfree
    constructor
    · intro fault
      exact registration_invalid label c hd hfree
    · exact registration_stops label c hd hfree
  exact ⟨registration_requests label c hd, fun _ => registration_held label c hd, free,
    registered_iff label c hd, register_starts label c hd⟩

end
end Session

namespace Trial

/-- The broker refuses to declare an exchange. -/
def shut : Session :=
  { fresh with broker.faults := [(.declareExchange, [some (.declareExchange "x")])] }

/-- A contract for numbers, at an exchange that carries texts. -/
def mistyped : Contract := { contractAt (.named "x") with payloadType := .named "u64" }

end Trial

namespace Session
open Trial

/-- A queue that cannot be declared is not consumed. -/
theorem unregistered_at_fault :
    fresh.dispatchers[0]? = some { ledger := 0 } ∧
    (∃ outcome, fresh.broker.Stops
        (((contractAt (.named "x")).asked "dev").map fun r => (r, TopologyError.broker))
        (fresh.registration "a" (contractAt (.named "x")) 0).requests outcome ∧
      (fresh.registration "a" (contractAt (.named "x")) 0).result = outcome.bind fun _ => .ok 0) ∧
    (fresh.registration "a" (contractAt (.named "x")) 0).result =
      .error (.broker (.declareQueue "q")) := by
  have h := registers_as_planned (s := fresh) (n := 0) (d := { ledger := 0 }) "a"
    (contractAt (.named "x")) rfl
  have hvalid : (contractAt (.named "x")).validate = .ok () := by decide +kernel
  exact ⟨rfl, (h.2.2.1 rfl).2 hvalid, by decide +kernel⟩

/-- An exchange that cannot be declared is reported, whatever the types of the payloads are. -/
theorem types_unseen :
    (shut.claims 0).owners.get? (mistyped.address "dev") = none ∧ mistyped.validate = .ok () ∧
    mistyped.exchange.payloadTag ≠ mistyped.payloadType.tag ∧
    (shut.registration "a" mistyped 0).requests = [(.declareExchange mistyped.exchange, false)] ∧
    (shut.registration "a" mistyped 0).result ≠
      .error (.typeMismatch mistyped.exchange.payloadTag mistyped.payloadType.tag) ∧
    (shut.registration "a" mistyped 0).result =
      .error (.broker (.declareExchange "x")) := by
  refine ⟨rfl, by decide +kernel, by decide +kernel, by decide +kernel, ?_⟩
  have hresult : (shut.registration "a" mistyped 0).result =
    .error (.broker (.declareExchange "x")) := by decide +kernel
  rw [hresult]
  exact ⟨by simp, rfl⟩

end Session
end Courier
