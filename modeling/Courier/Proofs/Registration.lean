import Courier.Proofs.Contract
import Courier.Proofs.Declaration
import Courier.Proofs.Registry
import Courier.Proofs.Session.Move
import Courier.Proofs.Session.Tending

/-! A dispatcher holds a claim on the address of each contract that it has registered, and on no
other. -/
namespace Courier

namespace Contract
variable {c : Contract} {env : String} {registry claimed : Registry}

theorem register_refused {e : TopologyError}
    (h : registry.register (c.address env) c.payloadType.tag = .error e) (d : Desk) :
    (c.register env registry).run d = ((.error e, registry), d) := by
  unfold register
  dsimp only
  rw [h]
  rfl

/-- With a free address, registering comes to subscribing; the claim stands if that succeeds. -/
theorem register_claiming (h : registry.register (c.address env) c.payloadType.tag = .ok claimed)
    (d : Desk) :
    ((c.register env registry).run d).1 =
        (((c.subscribe env).run.run d).1,
          match ((c.subscribe env).run.run d).1 with
          | .ok () => claimed
          | .error _ => registry) ∧
      ((c.register env registry).run d).2.requests = ((c.subscribe env).run.run d).2.requests := by
  have hreleased := Registry.release_register h
  unfold register
  dsimp only
  rw [h]
  dsimp only
  rw [StateT.run_bind]
  generalize (c.subscribe env).run.run d = subscribed
  obtain ⟨_ | _, d'⟩ := subscribed
  · exact ⟨congrArg (Prod.mk _) hreleased, rfl⟩
  · exact ⟨rfl, (Desk.noted_requests d' _).trans (List.append_nil _)⟩

theorem subscribe_not_duplicate {d : Desk} {e : TopologyError}
    (h : ((c.subscribe env).run.run d).1 = .error e) (address owner : String) :
    e ≠ .duplicateAddress address owner := by
  rcases subscribe_error env h with (⟨fault, rfl⟩ | rfl) | ⟨cause, rfl⟩ <;>
    exact TopologyError.noConfusion

end Contract

/-- A call that was to register a contract: what it gave, and the requests it made. -/
structure Registration where
  contract : Contract
  result : Except TopologyError Nat
  requests : List (Request × Bool)

namespace Session

/-- What a dispatcher has claimed. -/
def claims (s : Session) (dispatcher : Nat) : Registry :=
  (s.dispatchers[dispatcher]?.map (·.registry)).getD {}

def registration (s : Session) (label : String) (c : Contract) (dispatcher : Nat) : Registration :=
  ⟨c, (s.register label c dispatcher).1,
    Entry.requests (s.since (s.register label c dispatcher).2)⟩

/-- The call to register a contract on a dispatcher, if a command is one. -/
def called (dispatcher : Nat) (s : Session) : Command → List Registration
  | .register label c d =>
    if d = dispatcher then [{ s with journal := [] }.registration label c d] else []
  | _ => []

/-- All such calls in the course of commands. -/
def registrations (dispatcher : Nat) : Session → List Command → List Registration
  | _, [] => []
  | s, c :: commands => s.called dispatcher c ++ registrations dispatcher (s.step c).2 commands

section
variable {s : Session} {n : Nat} {d : Dispatcher} (label : String) (c : Contract)

/-- Registering is work at the desk of the dispatcher, and changes what this dispatcher claims. -/
theorem register_eq (hd : s.dispatchers[n]? = some d) :
    (s.register label c n).1 =
        ((c.register s.env d.registry).run (s.desk d.ledger)).1.1.map
          (fun _ => s.subscriptions.length) ∧
      (s.registration label c n).requests =
        ((c.register s.env d.registry).run (s.desk d.ledger)).2.requests ∧
      (s.register label c n).2.env = s.env ∧
      (s.register label c n).2.dispatchers = s.dispatchers.set n
        { d with registry := ((c.register s.env d.registry).run (s.desk d.ledger)).1.2 } := by
  have hrequests := Entry.requests_heard c.handler s.now none
    ((c.register s.env d.registry).run (s.desk d.ledger)).2.notes
  unfold registration register
  rw [hd]
  unfold act
  dsimp only
  generalize (c.register s.env d.registry).run (s.desk d.ledger) = out at hrequests ⊢
  obtain ⟨⟨_ | _, registry⟩, d'⟩ := out
  · refine ⟨rfl, ?_, rfl, rfl⟩
    exact (congrArg Entry.requests (since_eq rfl)).trans hrequests
  · refine ⟨rfl, ?_, rfl, rfl⟩
    exact (congrArg Entry.requests (since_eq rfl)).trans hrequests

theorem claims_eq (hd : s.dispatchers[n]? = some d) : s.claims n = d.registry := by
  unfold claims
  rw [hd]
  rfl

theorem register_claims (hd : s.dispatchers[n]? = some d) :
    (s.register label c n).2.claims n =
      ((c.register s.env d.registry).run (s.desk d.ledger)).1.2 := by
  have hn : n < s.dispatchers.length := (List.getElem?_eq_some_iff.mp hd).1
  refine claims_eq (d := { d with registry := _ }) ?_
  rw [(register_eq label c hd).2.2.2, List.getElem?_set_self hn]

theorem refused (hd : s.dispatchers[n]? = some d) {e : TopologyError}
    (h : d.registry.register (c.address s.env) c.payloadType.tag = .error e) :
    (s.registration label c n).result = .error e ∧ (s.registration label c n).requests = [] ∧
      (s.register label c n).2.claims n = s.claims n := by
  obtain ⟨hresult, hrequests, -, -⟩ := register_eq label c hd
  have hclaims := register_claims label c hd
  rw [Contract.register_refused h] at hresult hrequests hclaims
  exact ⟨hresult, hrequests, hclaims.trans (claims_eq hd).symm⟩

/-- The claim on a free address stands just when the subscription succeeds, and just then the queue
is consumed. -/
theorem claiming (hd : s.dispatchers[n]? = some d) {claimed : Registry}
    (h : d.registry.register (c.address s.env) c.payloadType.tag = .ok claimed) :
    (∃ stream, (s.registration label c n).result = .ok stream ∧
        Contract.consumed (s.registration label c n).requests = [c.address s.env] ∧
        (s.register label c n).2.claims n = claimed) ∨
      ∃ e, (s.registration label c n).result = .error e ∧
        (∀ address owner, e ≠ .duplicateAddress address owner) ∧
        Contract.consumed (s.registration label c n).requests = [] ∧
        (s.register label c n).2.claims n = s.claims n := by
  obtain ⟨hresult, hrequests, -, -⟩ := register_eq label c hd
  have hclaims := register_claims label c hd
  obtain ⟨hout, hsame⟩ := Contract.register_claiming h (s.desk d.ledger)
  have hconsumes := Contract.subscribe_consumes s.env (s.desk d.ledger) (c := c)
  have hdistinct : ∀ e, ((c.subscribe s.env).run.run (s.desk d.ledger)).1 = .error e →
      ∀ address owner, e ≠ .duplicateAddress address owner :=
    fun _ he => Contract.subscribe_not_duplicate he
  rw [hout] at hresult hclaims
  rw [hrequests, hsame, hconsumes]
  cases hsub : ((c.subscribe s.env).run.run (s.desk d.ledger)).1 with
  | ok =>
    rw [hsub] at hresult hclaims
    exact Or.inl ⟨_, hresult, rfl, hclaims⟩
  | error e =>
    rw [hsub] at hresult hclaims
    exact Or.inr ⟨e, hresult, hdistinct e hsub, rfl, hclaims.trans (claims_eq hd).symm⟩

end

/-- The queues that calls to register contracts have come to consume. -/
def consumedBy (past : List Registration) : List String :=
  past.flatMap fun r => Contract.consumed r.requests

/-- What a dispatcher has claimed, and what it has come to consume, is what its calls to register
contracts tell. -/
structure Matched (env : String) (n : Nat) (past : List Registration) (s : Session) : Prop where
  place : s.env = env
  present : ∃ d, s.dispatchers[n]? = some d
  claims : ∀ address tag, (s.claims n).owners.get? address = some tag ↔
    ∃ r ∈ past, r.result.isOk = true ∧ r.contract.address env = address ∧
      r.contract.payloadType.tag = tag
  consumed : ∀ address, (consumedBy past).count address =
    if (s.claims n).contains address then 1 else 0

section
variable {s s' : Session} {n : Nat} {env : String} {past : List Registration}

theorem Matched.start {d : Dispatcher} (hd : s.dispatchers[n]? = some d)
    (hnew : d.registry.owners = []) : Matched s.env n [] s := by
  refine ⟨rfl, ⟨d, hd⟩, fun address tag => ?_, fun address => ?_⟩
  · rw [claims_eq hd, hnew]
    simp
  · have hfree : d.registry.contains address = false := by
      unfold Registry.contains
      rw [hnew]
      rfl
    rw [claims_eq hd, hfree]
    rfl

theorem Matched.of_claims (h : Matched env n past s) (place : s'.env = s.env)
    (present : ∃ d, s'.dispatchers[n]? = some d) (claims : s'.claims n = s.claims n) :
    Matched env n past s' :=
  ⟨place.trans h.place, present, claims ▸ h.claims, claims ▸ h.consumed⟩

theorem consumedBy_append (r : Registration) :
    consumedBy (past ++ [r]) = consumedBy past ++ Contract.consumed r.requests := by
  unfold consumedBy
  rw [List.flatMap_append, List.flatMap_singleton]

/-- A call that fails is of no consequence. -/
theorem Matched.failed (h : Matched env n past s) {r : Registration} {e : TopologyError}
    (hresult : r.result = .error e) (hnone : Contract.consumed r.requests = []) :
    Matched env n (past ++ [r]) s := by
  refine ⟨h.place, h.present, fun address tag => ?_, fun address => ?_⟩
  · rw [h.claims address tag]
    simp [hresult, Except.isOk, Except.toBool]
  · rw [consumedBy_append, hnone, List.append_nil]
    exact h.consumed address

/-- No call has claimed an address that is free. -/
theorem Matched.unclaimed (h : Matched env n past s) {address : String}
    (hfree : (s.claims n).owners.get? address = none) {r : Registration} (hr : r ∈ past)
    (hok : r.result.isOk = true) : r.contract.address env ≠ address := by
  intro he
  have hheld := (h.claims _ _).mpr ⟨r, hr, hok, he, rfl⟩
  rw [hfree] at hheld
  cases hheld

/-- A call that succeeds claims its address, and consumes the queue with this name. -/
theorem Matched.succeeded (h : Matched env n past s) {r : Registration} {stream : Nat}
    (hresult : r.result = .ok stream) (place : s'.env = s.env)
    (present : ∃ d, s'.dispatchers[n]? = some d)
    (hfree : (s.claims n).owners.get? (r.contract.address env) = none)
    (hclaims : s'.claims n =
      ⟨(s.claims n).owners.put (r.contract.address env) r.contract.payloadType.tag⟩)
    (hconsumed : Contract.consumed r.requests = [r.contract.address env]) :
    Matched env n (past ++ [r]) s' := by
  refine ⟨place.trans h.place, present, fun address tag => ?_, fun address => ?_⟩
  · rw [hclaims, Keyed.get?_put]
    by_cases he : r.contract.address env = address
    · subst he
      simp only [if_pos, Option.some.injEq, List.mem_append, List.mem_singleton]
      constructor
      · intro htag
        exact ⟨r, Or.inr rfl, by rw [hresult]; rfl, rfl, htag⟩
      · rintro ⟨r', hr' | rfl, hok, he', htag⟩
        · exact absurd he' (h.unclaimed hfree hr' hok)
        · exact htag
    · rw [if_neg he, h.claims address tag]
      simp only [List.mem_append, List.mem_singleton]
      constructor
      · rintro ⟨r', hr', rest⟩
        exact ⟨r', Or.inl hr', rest⟩
      · rintro ⟨r', hr' | rfl, hok, he', htag⟩
        · exact ⟨r', hr', hok, he', htag⟩
        · exact absurd he' he
  · rw [consumedBy_append, hconsumed, List.count_append, h.consumed, hclaims, Registry.contains_put]
    by_cases he : r.contract.address env = address
    · subst he
      have hnot : (s.claims n).contains (r.contract.address env) = false := by
        unfold Registry.contains
        rw [hfree]
        rfl
      simp [hnot]
    · simp [he]

/-- Each call to register a contract keeps the claims and the consumed queues in step. -/
theorem Matched.register (h : Matched env n past s) (label : String) (c : Contract) :
    Matched env n (past ++ [s.registration label c n]) (s.register label c n).2 := by
  obtain ⟨d, hd⟩ := h.present
  have hplace : s.env = env := h.place
  obtain ⟨-, -, henv, hdispatchers⟩ := register_eq label c hd
  have hpresent : ∃ d, (s.register label c n).2.dispatchers[n]? = some d := by
    rw [hdispatchers, List.getElem?_set_self (List.getElem?_eq_some_iff.mp hd).1]
    exact ⟨_, rfl⟩
  cases hreg : d.registry.register (c.address s.env) c.payloadType.tag with
  | error e =>
    obtain ⟨hresult, hrequests, hsame⟩ := refused label c hd hreg
    have hnone : Contract.consumed (s.registration label c n).requests = [] := by
      rw [hrequests]
      rfl
    exact (h.failed hresult hnone).of_claims henv hpresent hsame
  | ok claimed =>
    obtain ⟨hfree, hclaimed⟩ := Registry.register_ok hreg
    rw [← claims_eq hd] at hfree hclaimed
    rcases claiming label c hd hreg with ⟨stream, hresult, hone, hclaims⟩ |
      ⟨e, hresult, -, hnone, hsame⟩
    · rw [hplace] at hfree hclaimed hone
      exact h.succeeded hresult henv hpresent hfree (hclaims.trans hclaimed) hone
    · exact (h.failed hresult hnone).of_claims henv hpresent hsame

/-- What else a session does leaves its place and its dispatchers as they are. -/
def Settled (s s' : Session) : Prop := s'.env = s.env ∧ s'.dispatchers = s.dispatchers

theorem Tends.settled (h : s.Tends s') : s.Settled s' := ⟨h.env, h.dispatchers⟩

theorem Settled.trans {s'' : Session} (h : s.Settled s') (h' : s'.Settled s'') : s.Settled s'' :=
  ⟨h'.1.trans h.1, h'.2.trans h.2⟩

theorem publish_settled (label : String) (c : Contract) (broadcast : Bool)
    (context : List (String × String)) (payload : Payload) :
    s.Settled (s.publish label c broadcast context payload).2 := by
  have works : ∀ {α : Type} (s : Session) (w : StateM Desk α), s.Settled (s.work c w).2 :=
    fun _ _ => ⟨rfl, rfl⟩
  have keyed := works s (c.routingKey s.env broadcast).run
  cases hkey : (s.work c (c.routingKey s.env broadcast).run).1 with
  | error e =>
    rw [publish_of_error s label c context payload hkey]
    exact keyed
  | ok key =>
    rw [publish_of_key s label c context payload hkey]
    unfold publishUnder
    dsimp only
    have enclosed := keyed.trans (works _ (c.enclose label payload))
    generalize (Session.work _ c (c.enclose label payload)).1 = enclosure
    obtain ⟨e, attempt⟩ := enclosure
    have waited := enclosed.trans (waited_tends _ attempt.wait).settled
    have sent := waited.trans (works _ (c.send key context e attempt.result).run)
    exact sent.trans (route_tends _).settled

theorem streamError_settled (stream : Nat) (e : BrokerError) :
    s.Settled (s.streamError stream e) := by
  unfold streamError
  split <;> exact ⟨rfl, rfl⟩

theorem close_settled (stream : Nat) : s.Settled (s.close stream) := by
  unfold Session.close
  split
  · exact ⟨rfl, rfl⟩
  · split <;> exact ⟨rfl, rfl⟩

/-- Only calls to register contracts change what dispatchers claim. -/
theorem perform_settled {c : Command} (h : ∀ label contract d, c ≠ .register label contract d) :
    s.Settled (s.perform c).2 := by
  cases c with
  | register label contract d => exact absurd rfl (h label contract d)
  | publish label c broadcast context payload =>
    exact publish_settled label c broadcast context payload
  | deliver stream messages => exact (deliver_tends s stream messages).settled
  | streamError stream e => exact streamError_settled stream e
  | close stream => exact close_settled stream
  | advance ms => exact (advance_tends s ms).settled
  | settle => exact (run_tends s none).settled
  | ledger dispatcher call id => cases call <;> exact ⟨rfl, rfl⟩
  | _ => exact ⟨rfl, rfl⟩

/-- A call to register a contract elsewhere changes nothing here. -/
theorem register_elsewhere (label : String) (c : Contract) {d : Nat} (h : d ≠ n) :
    (s.register label c d).2.env = s.env ∧
      (s.register label c d).2.dispatchers[n]? = s.dispatchers[n]? := by
  cases hd : s.dispatchers[d]? with
  | none =>
    unfold Session.register
    rw [hd]
    exact ⟨rfl, rfl⟩
  | some dispatcher =>
    obtain ⟨-, -, henv, hdispatchers⟩ := register_eq label c hd
    rw [hdispatchers, List.getElem?_set_ne h]
    exact ⟨henv, rfl⟩

theorem Matched.of_dispatcher (h : Matched env n past s) (place : s'.env = s.env)
    (same : s'.dispatchers[n]? = s.dispatchers[n]?) : Matched env n past s' := by
  refine h.of_claims place (same ▸ h.present) ?_
  unfold Session.claims
  rw [same]

theorem Matched.settled (h : Matched env n past s) (hs : s.Settled s') : Matched env n past s' :=
  h.of_dispatcher hs.1 (congrArg (·[n]?) hs.2)

theorem Matched.step (h : Matched env n past s) (c : Command) :
    Matched env n (past ++ s.called n c) (s.step c).2 := by
  have hbegun : Matched env n past { s with journal := [] } := h.settled ⟨rfl, rfl⟩
  have hdone : Matched env n (past ++ s.called n c) ({ s with journal := [] }.perform c).2 := by
    by_cases hc : ∃ label contract d, c = .register label contract d
    · obtain ⟨label, contract, d, rfl⟩ := hc
      unfold called
      dsimp only
      by_cases hd : d = n
      · subst hd
        rw [if_pos rfl]
        exact hbegun.register label contract
      · have helse := register_elsewhere (s := { s with journal := [] }) label contract hd
        rw [if_neg hd, List.append_nil]
        exact hbegun.of_dispatcher helse.1 helse.2
    · have hother : ∀ label contract d, c ≠ .register label contract d :=
        fun label contract d he => hc ⟨label, contract, d, he⟩
      have hnone : s.called n c = [] := by
        cases c with
        | register label contract d => exact absurd rfl (hother label contract d)
        | _ => rfl
      rw [hnone, List.append_nil]
      exact hbegun.settled (perform_settled hother)
  exact hdone.settled (run_tends _ _).settled

theorem Matched.steps (h : Matched env n past s) (commands : List Command) :
    Matched env n (past ++ registrations n s commands)
      (commands.foldl (fun s c => (s.step c).2) s) := by
  induction commands generalizing s past with
  | nil =>
    rw [registrations, List.append_nil]
    exact h
  | cons c commands ih =>
    rw [registrations, ← List.append_assoc]
    exact ih (h.step c)

/-- An address that is held is refused, in the name of the contract that holds it. -/
theorem Matched.duplicate (h : Matched env n past s) {r : Registration} (hr : r ∈ past)
    (hok : r.result.isOk = true) (label : String) {c : Contract}
    (hsame : r.contract.address env = c.address env) :
    (s.registration label c n).result =
        .error (.duplicateAddress (c.address env) r.contract.payloadType.tag) ∧
      (s.registration label c n).requests = [] ∧
      (s.register label c n).2.claims n = s.claims n := by
  obtain ⟨d, hd⟩ := h.present
  have hheld := (h.claims _ _).mpr ⟨r, hr, hok, hsame, rfl⟩
  rw [claims_eq hd, ← h.place] at hheld
  rw [← h.place]
  exact refused label c hd (Registry.register_held (c.address_not_blank s.env) hheld)

/-- Any other call that fails leaves the claims as they are. -/
theorem Matched.other (h : Matched env n past s) (label : String) {c : Contract}
    (hfree : ∀ r ∈ past, r.result.isOk = true → r.contract.address env ≠ c.address env)
    {e : TopologyError} (he : (s.registration label c n).result = .error e) :
    (∀ address owner, e ≠ .duplicateAddress address owner) ∧
      (s.register label c n).2.claims n = s.claims n := by
  obtain ⟨d, hd⟩ := h.present
  cases hreg : d.registry.register (c.address s.env) c.payloadType.tag with
  | error e' =>
    obtain ⟨hresult, -, hsame⟩ := refused label c hd hreg
    rw [hresult] at he
    cases he
    refine ⟨?_, hsame⟩
    rintro address owner rfl
    obtain ⟨-, hheld⟩ := Registry.register_duplicate hreg
    rw [← claims_eq hd, h.place] at hheld
    obtain ⟨r, hr, hok, haddress, -⟩ := (h.claims _ _).mp hheld
    exact hfree r hr hok haddress
  | ok claimed =>
    rcases claiming label c hd hreg with ⟨stream, hresult, -⟩ | ⟨e', hresult, hdistinct, -, hsame⟩
    · rw [hresult] at he
      cases he
    · rw [hresult] at he
      cases he
      exact ⟨hdistinct, hsame⟩

/-- Whatever a session has been told to do, a dispatcher that was new at the start holds claims on
the addresses of the contracts that it has registered, in their names, and has consumed each of
these queues once and no other. From there, registering a contract whose address is held is refused
without a request, and if it fails for another reason the claims stay as they are. -/
theorem claims_match_subscriptions {d : Dispatcher} (hd : s.dispatchers[n]? = some d)
    (hnew : d.registry.owners = []) (commands : List Command) :
    let s' := commands.foldl (fun s c => (s.step c).2) s
    let past := registrations n s commands
    (∀ address tag, (s'.claims n).owners.get? address = some tag ↔
      ∃ r ∈ past, r.result.isOk = true ∧ r.contract.address s.env = address ∧
        r.contract.payloadType.tag = tag) ∧
    (∀ address, (consumedBy past).count address =
      if (s'.claims n).contains address then 1 else 0) ∧
    ∀ label c,
      (∀ r ∈ past, r.result.isOk = true → r.contract.address s.env = c.address s.env →
        (s'.registration label c n).result =
            .error (.duplicateAddress (c.address s.env) r.contract.payloadType.tag) ∧
          (s'.registration label c n).requests = [] ∧
          (s'.register label c n).2.claims n = s'.claims n) ∧
      ((∀ r ∈ past, r.result.isOk = true → r.contract.address s.env ≠ c.address s.env) →
        ∀ e, (s'.registration label c n).result = .error e →
          (∀ address owner, e ≠ .duplicateAddress address owner) ∧
            (s'.register label c n).2.claims n = s'.claims n) := by
  intro s' past
  have h : Matched s.env n past s' := (Matched.start hd hnew).steps commands
  refine ⟨h.claims, h.consumed, fun label c => ⟨?_, ?_⟩⟩
  · intro r hr hok hsame
    exact h.duplicate hr hok label hsame
  · intro hfree e he
    exact h.other label hfree he

end
end Session

namespace Trial

/-- A dispatcher that has registered nothing yet, and a broker that fails at the first queue. -/
def fresh : Session where
  env := "dev"
  broker := { faults := [(.declareQueue, [some (.declareQueue "q")])] }
  ledgers := [{}]
  dispatchers := [{ ledger := 0 }]

def registering : Command := .register "a" (contract 0 0) 0

/-- After the failure. -/
def refused : Session := { (fresh.step registering).2 with journal := [] }

end Trial

namespace Session
open Trial

/-- A claim that was given up does not stand in the way, one that stands does. -/
theorem claimed_at_second_attempt :
    (fresh.registration "a" (contract 0 0) 0).result.isOk = false ∧
    (Trial.refused.registration "a" (contract 0 0) 0).result.isOk = true ∧
    (((fresh.step registering).2.step registering).2.registration "b" (contract 0 0) 0).result =
      .error (.duplicateAddress ((contract 0 0).address "dev") Exchange.textTag) := by
  have hfirst : (fresh.registration "a" (contract 0 0) 0).result.isOk = false := by decide +kernel
  have hsecond : (Trial.refused.registration "a" (contract 0 0) 0).result.isOk = true := by
    decide +kernel
  have hmem : Trial.refused.registration "a" (contract 0 0) 0 ∈
      registrations 0 fresh [registering, registering] := by
    simp [registrations, called, registering, Trial.refused]
  have h := claims_match_subscriptions (s := fresh) (n := 0) (d := { ledger := 0 }) rfl rfl
    [registering, registering]
  exact ⟨hfirst, hsecond, ((h.2.2 "b" (contract 0 0)).1 _ hmem hsecond rfl).1⟩

end Session
end Courier
