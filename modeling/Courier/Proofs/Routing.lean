import Courier.Proofs.Contract
import Courier.Proofs.Declaration
import Courier.Proofs.Session.Move
import Courier.Proofs.Session.Publishing
import Mathlib.Data.List.Infix

/-! Where a message that is published to the queue of a contract is routed, by the rules of
AMQP 0-9-1. -/
namespace Courier

/-- A pattern of words matches a key: a star stands for one word, a hash for any words. -/
def wordsMatch : List (List Char) → List (List Char) → Bool
  | [], key => key.isEmpty
  | word :: pattern, key =>
    if word = ['#'] then key.tails.any (wordsMatch pattern)
    else match key with
      | [] => false
      | w :: rest => (word = ['*'] || word = w) && wordsMatch pattern rest

/-- The words of keys and patterns are separated by dots. -/
def topicMatches (pattern key : String) : Bool :=
  wordsMatch (pattern.toList.splitOn '.') (key.toList.splitOn '.')

/-- The empty pattern matches the empty key only. -/
theorem topicMatches_empty (key : String) : topicMatches "" key = decide (key = "") := by
  have hempty : topicMatches "" key = true ↔ key.toList.splitOn '.' = [[]] := by
    unfold topicMatches
    change wordsMatch [[]] (key.toList.splitOn '.') = true ↔ _
    generalize key.toList.splitOn '.' = words
    match words with
    | [] => simp [wordsMatch]
    | [w] => simp [wordsMatch, eq_comm]
    | w :: w' :: rest => simp [wordsMatch]
  have hkey : key.toList.splitOn '.' = [[]] ↔ key = "" := by
    constructor
    · intro h
      have hjoined : ['.'].intercalate (key.toList.splitOn '.') = key.toList :=
        List.intercalate_splitOn '.'
      rw [h] at hjoined
      exact String.toList_eq_nil_iff.mp hjoined.symm
    · rintro rfl
      rfl
  rw [Bool.eq_iff_iff, hempty, hkey, decide_eq_true_iff]

/-- Whether an exchange passes a message on to a queue that is bound with the key `bound`. Bindings
have no arguments, so a headers exchange passes everything on. -/
def ExchangeKind.passes (bound key : String) : ExchangeKind → Bool
  | .direct => bound = key
  | .topic => topicMatches bound key
  | .fanout | .headers => true
  | .default => false

/-- What requests that have succeeded have set up. -/
def Topology.ofRequests (requests : List (Request × Bool)) : Topology :=
  (requests.filter (·.2)).foldl (fun t made => t.after made.1) {}

/-- Whether a message published to an exchange gets to a queue. The exchange without a name passes a
message on to the queue that its key names. -/
def Topology.routes (t : Topology) (exchange key queue : String) : Bool :=
  if exchange = "" then key = queue && (t.queues.get? queue).isSome
  else t.exchanges.any fun x => x.name = exchange && t.bindings.any fun b =>
    b.exchange = exchange && b.queue = queue && x.kind.passes b.key key

namespace Contract
variable {c : Contract} {env : String}

/-- What a contract declares gets the messages for its queue there if the exchange passes on
everything or is the one that needs no binding. -/
theorem routes_declaring (hvalid : c.validate = .ok ()) :
    (Topology.ofRequests ((c.declaring env).map fun r => (r, true))).routes c.exchange.name
        (c.address env) (c.address env) = true ↔
      c.exchange.kind = .fanout ∨ c.exchange.kind = .headers ∨
        c.exchange.kind = .default ∧ c.exchange.name = "" := by
  have hcheck := (c.validate_eq_ok.mp hvalid).2.2.2
  have hne := c.address_ne_empty env
  unfold Exchange.check at hcheck
  cases hkind : c.exchange.kind with
  | default =>
    have hdefault : c.exchange.isDefault = true := by simp [Exchange.isDefault, hkind]
    unfold Topology.routes declaring
    rw [hdefault]
    by_cases hname : c.exchange.name = "" <;>
      simp [hname, Topology.ofRequests, Topology.after, Keyed.put, Keyed.get?]
  | _ =>
    have hdefault : c.exchange.isDefault = false := by simp [Exchange.isDefault, hkind]
    have hname : c.exchange.name ≠ "" := by
      intro h
      rw [hdefault, h] at hcheck
      cases hcheck
    unfold Topology.routes declaring
    rw [hdefault, if_neg hname]
    simp [Topology.ofRequests, Topology.after, Topology.insertNew, ExchangeKind.passes, hkind,
      topicMatches_empty, hne, hne.symm]

end Contract

namespace Session
variable {s s₁ p : Session} {c : Contract}

theorem declare_ok {name : String}
    (h : s.perform (.declare c) = (.declared (.ok name), s₁)) :
    c.validate = .ok () ∧
      Entry.requests (s.since s₁) = (c.declaring s.env).map fun r => (r, true) := by
  have hreply : Reply.declared (s.work c (c.declare s.env).run).1 = .declared (.ok name) :=
    congrArg Prod.fst h
  have hsame : (s.work c (c.declare s.env).run).2 = s₁ := congrArg Prod.snd h
  have hgiven : ((c.declare s.env).run.run (s.desk (s.ledgerOf 0))).1 = .ok name :=
    Reply.declared.inj hreply
  obtain ⟨hvalid, hrequests⟩ := Contract.declare_requests s.env hgiven
  refine ⟨hvalid, ?_⟩
  rw [← hsame, since_eq rfl, Entry.requests_heard]
  exact hrequests

/-- A request to publish to the queue of a contract names its exchange, and its queue as the key. -/
theorem publish_address {label : String} {context : List (String × String)} {payload : Payload}
    {exchange key : String} {headers : Headers} {body : Bytes} {ok : Bool}
    (h : (.publish exchange key headers body, ok) ∈
      Entry.ownRequests (p.since (p.publish label c false context payload).2)) :
    exchange = c.exchange.name ∧ key = c.address p.env := by
  obtain ⟨hexchange, hkey, -⟩ := p.publish_requests label c h
  exact ⟨hexchange, (Except.ok.inj hkey).symm⟩

/-- A message published to the queue of a contract, on which declaring has succeeded, is routed to
this queue just when the exchange is a fanout or headers exchange, or the default exchange. The
binding has an empty key, which a direct or topic exchange does not match with the queue's name. -/
theorem routed_iff {name : String} (declared : s.perform (.declare c) = (.declared (.ok name), s₁))
    (place : p.env = s.env) {label : String} {context : List (String × String)} {payload : Payload}
    {exchange key : String} {headers : Headers} {body : Bytes} {ok : Bool}
    (published : (.publish exchange key headers body, ok) ∈
      Entry.ownRequests (p.since (p.publish label c false context payload).2)) :
    (Topology.ofRequests (Entry.requests (s.since s₁))).routes exchange key (c.address s.env) =
        true ↔
      c.exchange.kind = .fanout ∨ c.exchange.kind = .headers ∨
        c.exchange.kind = .default ∧ c.exchange.name = "" := by
  obtain ⟨hvalid, hrequests⟩ := declare_ok declared
  obtain ⟨rfl, rfl⟩ := publish_address published
  rw [hrequests, place]
  exact Contract.routes_declaring hvalid

end Session

namespace Trial

def queueAt (exchange : Exchange) : String := (contractAt exchange).address "dev"

/-- The session after the contract has been declared. -/
def declaredAt (exchange : Exchange) : Session :=
  (home.perform (.declare (contractAt exchange))).2

def topologyAt (exchange : Exchange) : Topology :=
  .ofRequests (Entry.requests (home.since (declaredAt exchange)))

/-- The session after a message has been published to the queue, and the request for that. -/
def publishedAt (exchange : Exchange) : Session :=
  (home.publish "p" (contractAt exchange) false [] (.text "x")).2

def publishingAt (exchange : Exchange) : Request :=
  .publish exchange.name (queueAt exchange) []
    (⟨MessageId.ofNat 0, .text "x"⟩ : Envelope).toValue.bytes

def fanout : Exchange := { Exchange.named "x" with kind := .fanout }

end Trial

namespace Session
open Trial

theorem fanout_routes :
    (topologyAt fanout).routes fanout.name (queueAt fanout) (queueAt fanout) = true := by
  have published : (publishingAt fanout, true) ∈
      Entry.ownRequests (home.since (publishedAt fanout)) := by decide +kernel
  exact (routed_iff (s := home) (c := contractAt fanout) rfl rfl published).mpr (Or.inl rfl)

/-- A direct exchange does not get a message to the queue that it is meant for, although everything
has been declared and the message has been published. -/
theorem direct_loses :
    (∃ s, home.perform (.declare (contractAt (.named "x"))) =
      (.declared (.ok (queueAt (.named "x"))), s)) ∧
    (publishingAt (.named "x"), true) ∈
      Entry.ownRequests (home.since (publishedAt (.named "x"))) ∧
    (topologyAt (.named "x")).routes "x" (queueAt (.named "x")) (queueAt (.named "x")) = false :=
  ⟨⟨_, rfl⟩, by decide +kernel, by decide +kernel⟩

end Session
end Courier
