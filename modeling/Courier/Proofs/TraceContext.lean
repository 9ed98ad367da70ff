import Courier.Proofs.Keyed
import Courier.Proofs.LowerCase
import Courier.Proofs.Session.Publishing
import Mathlib.Data.List.Induction

/-! What becomes of the trace context that a publisher injects: the span of a delivery finds it in
the headers of the message, under keys in lower case. -/
namespace Courier

namespace TraceContext
variable (pairs : List (String × String))

/-- The value of the last pair whose key has this lower-case form. -/
def lastValue? (key : String) : Option String :=
  ((pairs.filter fun p => Text.lower p.1 = key).getLast?).map Prod.snd

theorem lastValue?_isSome {key : String} :
    (lastValue? pairs key).isSome = true ↔ ∃ p ∈ pairs, Text.lower p.1 = key := by
  unfold lastValue?
  rw [Option.isSome_map, List.getLast?_isSome]
  simp [List.filter_eq_nil_iff]

theorem inject_concat (p : String × String) :
    inject (pairs ++ [p]) = (inject pairs).put (Text.lower p.1) p.2 := by
  simp [inject]

/-- Of all that is injected under one key, the headers hold the last. -/
theorem extract_inject (key : String) : extract (inject pairs) key = lastValue? pairs key := by
  induction pairs using List.reverseRecOn with
  | nil => rfl
  | append_singleton pairs p ih =>
    unfold extract lastValue? at ih ⊢
    rw [inject_concat, Keyed.get?_put, ih, List.filter_append]
    by_cases h : Text.lower p.1 = key
    · simp [h]
    · simp [h]

theorem sorted_inject : (keys (inject pairs)).Pairwise (· < ·) := by
  induction pairs using List.reverseRecOn with
  | nil => exact List.Pairwise.nil
  | append_singleton pairs p ih =>
    rw [inject_concat]
    exact Keyed.sorted_put ih

/-- The keys of the headers are the lower-case forms of the keys that are injected, each once. -/
theorem keys_inject :
    (keys (inject pairs)).Nodup ∧
      ∀ key, key ∈ keys (inject pairs) ↔ ∃ p ∈ pairs, Text.lower p.1 = key := by
  constructor
  · exact Keyed.nodup_keys (sorted_inject pairs)
  · intro key
    rw [← lastValue?_isSome, ← extract_inject]
    exact Keyed.isSome_get?.symm

/-- A key that is not in lower case is looked up in vain. -/
theorem extract_of_lower_ne {key : String} (h : Text.lower key ≠ key) :
    extract (inject pairs) key = none := by
  rw [extract_inject, ← Option.not_isSome_iff_eq_none, lastValue?_isSome]
  rintro ⟨p, -, rfl⟩
  exact h (Text.lower_lower p.1)

end TraceContext

/-- The span that an event opens: its name, and the headers in which it looks for its parent. -/
def Event.span? : Event → Option (String × Headers)
  | .spanOpened name headers => some (name, headers)
  | _ => none

/-- The spans that are opened in entries. -/
def Entry.spans (entries : List Entry) : List (String × Headers) :=
  entries.filterMap (·.note.event.span?)

namespace Desk

/-- The spans opened at the desk so far. -/
def spans (d : Desk) : List (String × Headers) := d.notes.filterMap (·.event.span?)

section
variable (d : Desk) (e : Event) (r : Request)

@[simp] theorem noted_spans : (d.noted e).spans = d.spans ++ e.span?.toList := by
  unfold spans noted
  rw [List.filterMap_append]
  cases h : e.span? <;> simp [h]

@[simp] theorem called_spans : (d.called r).spans = d.spans :=
  (noted_spans d _).trans (List.append_nil _)

end
end Desk

attribute [simp] Event.span?

namespace Consumer
variable (k : Consumer) (d : Delivery) (desk : Desk)

@[simp] theorem acknowledged_spans : (k.acknowledged d desk).spans = desk.spans := by
  unfold acknowledged
  cases h : k.contract.autoAck with
  | true => rw [acknowledge_autoAck k d desk h]
  | false =>
    rw [acknowledge_manual k d desk h]
    split
    · exact desk.called_spans _
    · change (((desk.called _).noted _).noted _).spans = _
      simp

/-- One span is opened for a delivery, with the name of the queue and the headers of the message. -/
theorem accept_spans :
    ((k.accept d).run desk).2.spans = desk.spans ++ [(k.queue, d.message.headers)] := by
  cases h : Envelope.decode k.contract.payloadType d.message.body with
  | error e =>
    obtain ⟨facts, hr⟩ := k.accept_run_error d desk h
    rw [hr]
    simp
  | ok e =>
    unfold accept
    rw [h]
    change (Desk.noted _ _).spans = _
    rw [Desk.noted_spans]
    change (desk.noted _).spans ++ [] = _
    simp

end Consumer

namespace Session
section
variable (s : Session) (sub : Subscription) (stream : Nat) (message : Message) (tag : Option Nat)

theorem arrive_spans :
    Entry.spans (s.since (s.arrive sub stream message tag)) =
      [(sub.consumer.queue, message.headers)] := by
  let s₁ := s.handing stream message tag
  let d := s.handed stream message tag
  let worked := s₁.attend sub s₁.broker.handedOver d.tag (sub.consumer.accept d)
  have hworked : Entry.spans (s.since worked.2) = [(sub.consumer.queue, message.headers)] := by
    have hsince : s.since worked.2 = _ := since_eq rfl
    rw [hsince]
    refine (Entry.filterMap_heard Event.span? _ _ _ ?_ _).trans ?_
    · intro e he
      cases e <;> first | rfl | cases he
    · exact sub.consumer.accept_spans d (s₁.desk sub.ledger)
  have hsame : (s.arrive sub stream message tag).journal = worked.2.journal := by
    unfold arrive accept
    dsimp only [worked, s₁, d]
    generalize (s.handing stream message tag).attend sub _ _
      (sub.consumer.accept (s.handed stream message tag)) = result
    obtain ⟨_ | ⟨id, turn⟩, s'⟩ := result <;> rfl
  unfold since at hworked ⊢
  rw [hsame]
  exact hworked

end

section
variable {s s' : Session} {deed : Deed} {sub : Subscription} {stream : Nat} {d : Delivery}

theorem Move.opens_span (m : Move s deed s')
    (hd : deed = .arrived sub stream d ∨ deed = .returned sub stream d) :
    Entry.spans (s.since s') = [(sub.consumer.queue, d.message.headers)] := by
  rcases hd with rfl | rfl
  · cases m with
    | arrive message tag => exact s.arrive_spans sub stream message tag
  · cases m with
    | @again sub p => exact (s.takeReturned p).arrive_spans sub p.stream p.message none

/-- Whenever a message is delivered with the headers with which it was published, one span is opened
for it, and looks for its parent in these headers. Their keys are the lower-case forms of the keys
that the publisher has injected, each once, and under each of them stands the value that was
injected last. So a key that was injected leads to its value just in case it is in lower case:
unlike the publisher, the consumer takes keys as they are. -/
theorem span_extracts {p : Session} {label : String} {c : Contract} {broadcast : Bool}
    {context : List (String × String)} {payload : Payload} {exchange key : String}
    {headers : Headers} {body : Bytes} {ok : Bool}
    (published : (.publish exchange key headers body, ok) ∈
      Entry.ownRequests (p.since (p.publish label c broadcast context payload).2))
    (delivered : Move s deed s')
    (hd : deed = .arrived sub stream d ∨ deed = .returned sub stream d)
    (same : d.message.headers = headers) :
    Entry.spans (s.since s') = [(sub.consumer.queue, headers)] ∧
      (TraceContext.keys headers).Nodup ∧
      (∀ k, k ∈ TraceContext.keys headers ↔ ∃ pair ∈ context, Text.lower pair.1 = k) ∧
      ∀ pair ∈ context, ∃ value,
        TraceContext.lastValue? context (Text.lower pair.1) = some value ∧
        TraceContext.extract headers (Text.lower pair.1) = some value ∧
        TraceContext.extract headers pair.1 =
          if Text.lower pair.1 = pair.1 then some value else none := by
  obtain ⟨-, -, hheaders⟩ := p.publish_requests label c published
  obtain ⟨hnodup, hkeys⟩ := TraceContext.keys_inject context
  have hspan := delivered.opens_span hd
  rw [same] at hspan
  rw [hheaders] at hspan ⊢
  refine ⟨hspan, hnodup, hkeys, fun pair hpair => ?_⟩
  have hsome : (TraceContext.lastValue? context (Text.lower pair.1)).isSome = true :=
    (TraceContext.lastValue?_isSome context).mpr ⟨pair, hpair, rfl⟩
  obtain ⟨value, hvalue⟩ := Option.isSome_iff_exists.mp hsome
  refine ⟨value, hvalue, (TraceContext.extract_inject context _).trans hvalue, ?_⟩
  split
  · next hlower => rw [TraceContext.extract_inject, ← hlower, hvalue]
  · next hcapital => exact TraceContext.extract_of_lower_ne context hcapital

end
end Session

namespace Trial

/-- The request that publishes a text with these headers. -/
def posting (headers : Headers) : Request :=
  .publish "" ((contract 0 0).address "dev") headers
    (⟨MessageId.ofNat 0, .text "x"⟩ : Envelope).toValue.bytes

/-- The session after a text has been published in a trace context. -/
def traced (context : List (String × String)) : Session :=
  (home.publish "p" (contract 0 0) false context (.text "x")).2

/-- The session after a message with these headers has arrived. -/
def received (headers : Headers) : Session :=
  (session [subscription 0 0]).arrive (subscription 0 0) 0 { message with headers } none

end Trial

namespace Session
open Trial

/-- The later of two pairs with one key counts. -/
theorem later_state_extracted :
    let context := [("tracestate", "a"), ("TraceState", "b")]
    (posting [("tracestate", "b")], true) ∈ Entry.ownRequests (home.since (traced context)) ∧
    Entry.spans ((session [subscription 0 0]).since (received [("tracestate", "b")])) =
      [("q", [("tracestate", "b")])] ∧
    TraceContext.extract [("tracestate", "b")] "tracestate" = some "b" := by
  intro context
  have published : (posting [("tracestate", "b")], true) ∈
      Entry.ownRequests (home.since (traced context)) := by decide +kernel
  have arrived := @Move.arrive (session [subscription 0 0]) (subscription 0 0) 0
    { message with headers := [("tracestate", "b")] } none rfl (by decide)
  obtain ⟨hspan, -, -, hvalues⟩ := span_extracts published arrived (.inl rfl) rfl
  obtain ⟨value, hlast, -, hextract⟩ := hvalues ("tracestate", "a") (by decide)
  have hlower : Text.lower "tracestate" = "tracestate" := by decide +kernel
  have hvalue : TraceContext.lastValue? context (Text.lower "tracestate") = some "b" := by
    decide +kernel
  rw [if_pos hlower, ← hlast, hvalue] at hextract
  exact ⟨published, hspan, hextract⟩

/-- A key with capital letters is injected, and not found again. -/
theorem capital_key_lost :
    let context := [("TraceParent", "v")]
    (posting [("traceparent", "v")], true) ∈ Entry.ownRequests (home.since (traced context)) ∧
    Entry.spans ((session [subscription 0 0]).since (received [("traceparent", "v")])) =
      [("q", [("traceparent", "v")])] ∧
    TraceContext.lastValue? context (Text.lower "TraceParent") = some "v" ∧
    TraceContext.extract [("traceparent", "v")] "TraceParent" = none := by
  intro context
  exact ⟨by decide +kernel, by decide +kernel, by decide +kernel, by decide⟩

end Session
end Courier
