import Courier.Declaration
import Courier.Proofs.Script

/-! The requests by which a contract is declared and its queue is consumed. -/
namespace Courier.Contract
open Desk
section
variable (c : Contract) (env : String)

/-- The exchange exists already or has to be declared. -/
def exchangeScript : Script TopologyError :=
  if !c.exchange.isDefault then [(.declareExchange c.exchange, .broker)] else []

/-- The queue has to be declared, and bound to an exchange that has a name. -/
def queueScript : Script TopologyError :=
  (.declareQueue ⟨c.address env, c.durable, c.exclusive, false⟩, .broker) ::
    if !c.exchange.isDefault then
      [(.bindQueue ⟨c.address env, c.exchange.name, ""⟩, .broker)]
    else []

/-- The requests that declare a contract, and what this gives if none of them fails. -/
def declaration : Script TopologyError × Except TopologyError String :=
  match c.validate with
  | .error fault => ([], .error fault.error)
  | .ok () =>
    if c.exchange.payloadTag ≠ c.payloadType.tag then
      (c.exchangeScript, .error (.typeMismatch c.exchange.payloadTag c.payloadType.tag))
    else (c.exchangeScript ++ c.queueScript env, .ok (c.address env))

/-- The requests that subscribe to a contract's queue, and what this gives if none of them fails. -/
def subscription : Script TopologyError × Except TopologyError Unit :=
  match c.declaration env with
  | (script, .error e) => (script, .error e)
  | (script, .ok _) =>
    (script ++ [(.consume (c.address env) (c.address env) c.bufferSize c.autoAck, .broker)], .ok ())

/-- The requests that declare a contract when all goes well. -/
def declaring : List Request :=
  let queue : Queue := ⟨c.address env, c.durable, c.exclusive, false⟩
  if c.exchange.isDefault then [.declareQueue queue]
  else [.declareExchange c.exchange, .declareQueue queue,
    .bindQueue ⟨c.address env, c.exchange.name, ""⟩]

/-- The requests that subscribe to a contract's queue when all goes well. -/
def subscribing : List Request :=
  c.declaring env ++ [.consume (c.address env) (c.address env) c.bufferSize c.autoAck]

variable {c}

theorem inspect_plays (d : Desk) :
    d.Plays c.inspect [] (c.validate.mapError ContractFault.error) := by
  unfold inspect
  cases c.validate with
  | error fault => exact Plays.throw d fault.error
  | ok =>
    dsimp only
    split
    · exact Plays.log d _ _ _
    · exact Plays.pure d ()

theorem matchPayload_plays (d : Desk) :
    d.Plays c.matchPayload []
      (if c.exchange.payloadTag ≠ c.payloadType.tag then
        .error (.typeMismatch c.exchange.payloadTag c.payloadType.tag)
      else .ok ()) := by
  unfold matchPayload
  split
  · exact (Plays.log d _ _ _).quietly fun d' _ => Plays.throw d' _
  · exact Plays.pure d ()

/-- Declaring a contract comes to its script. -/
theorem declare_plays (d : Desk) :
    d.Plays (c.declare env) (c.declaration env).1 (c.declaration env).2 := by
  have hinspect := inspect_plays (c := c) d
  unfold declare declaration
  cases hvalid : c.validate with
  | error fault =>
    rw [hvalid] at hinspect
    exact hinspect.fail
  | ok =>
    rw [hvalid] at hinspect
    dsimp only
    by_cases htag : c.exchange.payloadTag = c.payloadType.tag
    · rw [if_neg (not_not_intro htag)]
      refine hinspect.quietly fun d' _ => ?_
      refine Plays.whenThen (Plays.require d' _ _) fun d' => ?_
      have hmatch := matchPayload_plays (c := c) d'
      rw [if_neg (not_not_intro htag)] at hmatch
      refine hmatch.quietly fun d' _ => ?_
      refine (Plays.require d' _ _).bind fun d' _ => ?_
      refine Plays.whenLast (Plays.require d' _ _) fun d' => ?_
      exact (Plays.log d' _ _ _).quietly fun d' _ => Plays.pure d' (c.address env)
    · rw [if_pos htag]
      refine hinspect.quietly fun d' _ => ?_
      refine Plays.whenLast (Plays.require d' _ _) fun d' => ?_
      have hmatch := matchPayload_plays (c := c) d'
      rw [if_pos htag] at hmatch
      exact hmatch.fail

/-- No request that declares a contract consumes a queue, and if one fails this is reported as it
is. -/
theorem declaration_steps :
    ∀ step ∈ (c.declaration env).1, step.1.rpc ≠ .consume ∧ step.2 = .broker := by
  have hexchange : ∀ step ∈ c.exchangeScript, step.1.rpc ≠ .consume ∧ step.2 = .broker := by
    unfold exchangeScript
    split <;> simp [Request.rpc]
  have hqueue : ∀ step ∈ c.queueScript env, step.1.rpc ≠ .consume ∧ step.2 = .broker := by
    unfold queueScript
    split <;> simp [Request.rpc]
  unfold declaration
  split
  · exact fun _ h => absurd h List.not_mem_nil
  · split
    · exact hexchange
    · exact List.forall_mem_append.mpr ⟨hexchange, hqueue⟩

/-- Subscribing comes to its script. -/
theorem subscribe_plays (d : Desk) :
    d.Plays (c.subscribe env) (c.subscription env).1 (c.subscription env).2 := by
  have hdeclare := declare_plays (c := c) env d
  unfold subscribe subscription
  generalize c.declaration env = declaration at hdeclare
  obtain ⟨script, _ | name⟩ := declaration
  · exact hdeclare.fail
  · exact hdeclare.bind fun d' _ => Plays.require d' _ _

theorem declaration_ok {name : String} (h : (c.declaration env).2 = .ok name) :
    c.validate = .ok () ∧ (c.declaration env).1.map Prod.fst = c.declaring env := by
  unfold declaration at h ⊢
  cases hvalid : c.validate with
  | error fault => rw [hvalid] at h; cases h
  | ok =>
    rw [hvalid] at h
    dsimp only at h ⊢
    by_cases htag : c.exchange.payloadTag = c.payloadType.tag
    · rw [if_neg (not_not_intro htag)]
      unfold exchangeScript queueScript declaring
      cases c.exchange.isDefault <;> exact ⟨rfl, rfl⟩
    · rw [if_pos htag] at h
      cases h

/-- A declaration that succeeds has made all its requests. -/
theorem declare_requests {d : Desk} {name : String}
    (h : ((c.declare env).run.run d).1 = .ok name) :
    c.validate = .ok () ∧ ((c.declare env).run.run d).2.requests =
      d.requests ++ (c.declaring env).map fun r => (r, true) := by
  obtain ⟨hgiven, hmade⟩ := (declare_plays env d).of_ok h
  obtain ⟨hvalid, hscript⟩ := declaration_ok env hgiven
  rw [hscript] at hmade
  exact ⟨hvalid, hmade⟩

theorem subscription_ok (h : (c.subscription env).2 = .ok ()) :
    (c.subscription env).1.map Prod.fst = c.subscribing env := by
  have hdeclared : ∀ name, (c.declaration env).2 = .ok name →
      c.validate = .ok () ∧ (c.declaration env).1.map Prod.fst = c.declaring env :=
    fun _ h => declaration_ok env h
  unfold subscription at h ⊢
  generalize c.declaration env = declaration at h hdeclared ⊢
  obtain ⟨script, _ | name⟩ := declaration
  · cases h
  · dsimp only
    rw [List.map_append, (hdeclared name rfl).2]
    rfl

/-- A subscription that succeeds has made all its requests. -/
theorem subscribe_requests {d : Desk} (h : ((c.subscribe env).run.run d).1 = .ok ()) :
    ((c.subscribe env).run.run d).2.requests =
      d.requests ++ (c.subscribing env).map fun r => (r, true) := by
  obtain ⟨hgiven, hmade⟩ := (subscribe_plays env d).of_ok h
  rw [subscription_ok env hgiven] at hmade
  exact hmade

/-- The queues that are consumed by requests, those that fail aside. -/
def consumed (requests : List (Request × Bool)) : List String :=
  requests.filterMap fun
    | (.consume queue _ _ _, true) => some queue
    | _ => none

theorem consumed_append (requests more : List (Request × Bool)) :
    consumed (requests ++ more) = consumed requests ++ consumed more := List.filterMap_append

theorem consumed_eq_nil {requests : List (Request × Bool)}
    (h : ∀ made ∈ requests, made.1.rpc ≠ .consume) : consumed requests = [] := by
  refine List.filterMap_eq_nil_iff.mpr fun made hmade => ?_
  have hrpc := h made hmade
  obtain ⟨r, ok⟩ := made
  cases r with
  | consume => exact absurd rfl hrpc
  | _ => rfl

theorem consumed_declaration (b : Broker) : consumed (b.trace (c.declaration env).1) = [] := by
  refine consumed_eq_nil fun made hmade => ?_
  obtain ⟨step, hstep, heq⟩ := b.trace_subset _ made hmade
  rw [heq]
  exact (declaration_steps env step hstep).1

/-- A subscription that succeeds has consumed the contract's queue, and one that fails none. -/
theorem subscribe_consumes (d : Desk) :
    consumed ((c.subscribe env).run.run d).2.requests = consumed d.requests ++
      match ((c.subscribe env).run.run d).1 with
      | .ok () => [c.address env]
      | .error _ => [] := by
  have hplays := subscribe_plays (c := c) env d
  have hdeclared := consumed_declaration (c := c) env d.broker
  rw [hplays.requests, consumed_append, hplays.given]
  congr 1
  unfold subscription
  generalize c.declaration env = declaration at hdeclared
  obtain ⟨script, _ | name⟩ := declaration
  · rw [hdeclared]
    obtain ⟨_ | _, b⟩ := d.broker.play script <;> rfl
  · dsimp only at hdeclared ⊢
    rw [Broker.trace_append, Broker.play_append, consumed_append, hdeclared, List.nil_append]
    obtain ⟨_ | _, b⟩ := d.broker.play script
    · rfl
    · dsimp only
      rw [Broker.trace_single, Broker.play_single]
      cases (b.call (.consume (c.address env) (c.address env) c.bufferSize c.autoAck)).1 <;> rfl

theorem subscription_steps : ∀ step ∈ (c.subscription env).1, step.2 = .broker := by
  have hsteps := declaration_steps (c := c) env
  unfold subscription
  generalize c.declaration env = declaration at hsteps
  obtain ⟨script, _ | name⟩ := declaration
  · exact fun step hstep => (hsteps step hstep).2
  · intro step hstep
    rcases List.mem_append.mp hstep with hstep | hstep
    · exact (hsteps step hstep).2
    · rw [List.mem_singleton.mp hstep]

theorem declaration_error {e : TopologyError} (h : (c.declaration env).2 = .error e) :
    (∃ fault : ContractFault, e = fault.error) ∨
      e = .typeMismatch c.exchange.payloadTag c.payloadType.tag := by
  unfold declaration at h
  split at h
  · next fault _ => exact Or.inl ⟨fault, (Except.error.inj h).symm⟩
  · split at h
    · exact Or.inr (Except.error.inj h).symm
    · cases h

theorem subscription_error {e : TopologyError} (h : (c.subscription env).2 = .error e) :
    (c.declaration env).2 = .error e := by
  unfold subscription at h
  generalize c.declaration env = declaration at h ⊢
  obtain ⟨script, _ | name⟩ := declaration
  · exact congrArg Except.error (Except.error.inj h)
  · cases h

/-- What a failed subscription reports. -/
theorem subscribe_error {d : Desk} {e : TopologyError}
    (h : ((c.subscribe env).run.run d).1 = .error e) :
    ((∃ fault : ContractFault, e = fault.error) ∨
      e = .typeMismatch c.exchange.payloadTag c.payloadType.tag) ∨ ∃ cause, e = .broker cause := by
  rcases (subscribe_plays env d).of_error h with ⟨step, hstep, cause, rfl⟩ | hgiven
  · rw [subscription_steps env step hstep]
    exact Or.inr ⟨cause, rfl⟩
  · exact Or.inl (declaration_error env (subscription_error env hgiven))

end
end Courier.Contract
