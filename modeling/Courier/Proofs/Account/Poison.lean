import Courier.Proofs.Account.Once
import Courier.Proofs.Decoding

/-! A payload is required: a message without one is malformed, and no handler gets to see it. -/
namespace Courier
open Envelope

namespace Session
variable {s₀ s₁ s₂ s : Session} {before after : List Record} {deed : Deed} {sub : Subscription}
  {stream : Nat} {d : Delivery}

/-- A body that cannot be read is dropped as soon as it is handed over. -/
theorem dropped_of_error {e : EnvelopeError} (hs : s₀.Sound)
    (run : Run (fun _ _ => True) s₀ before s₁) (m : Move s₁ deed s₂)
    (hd : deed = .arrived sub stream d ∨ deed = .returned sub stream d)
    (run' : Run (fun _ _ => True) s₂ after s)
    (unread : Envelope.decode sub.consumer.contract.payloadType d.message.body = .error e) :
    s.tasksOf (s₁.broker.handedOver + 1) = [] ∧
      (∀ payload, Sight.handled payload ∉
        accountOf (s₁.broker.handedOver + 1) (before ++ ⟨deed, s₁.since s₂⟩ :: after)) ∧
      .resolved .poisoned ∈
        accountOf (s₁.broker.handedOver + 1) (before ++ ⟨deed, s₁.since s₂⟩ :: after) := by
  obtain ⟨sights, hp, hsights⟩ := progress_of_run hs run m hd run'
  generalize s.tasksOf (s₁.broker.handedOver + 1) = tasks at hp ⊢
  rw [hsights]
  cases hp with
  | @dropped e' ok =>
    unfold Consumer.ending
    refine ⟨rfl, fun payload hm => ?_, List.mem_filter.mpr ⟨by simp, rfl⟩⟩
    have hmem := (List.mem_filter.mp hm).1
    split at hmem <;> simp at hmem
  | handling read | delayed read | «over» read =>
    rw [unread] at read
    cases read

end Session

/-- A message without payload is malformed for the type, and so it is dropped by whoever consumes
this type and handled by nobody. -/
structure PayloadType.NeedsPayload (t : PayloadType) : Prop where
  malformed : ∀ {body}, Payloadless body → ∃ reason, decode t body = .error (.malformed reason)
  dropped : ∀ {s₀ s₁ s₂ s : Session} {before after : List Record} {deed : Deed}
    {sub : Subscription} {stream : Nat} {d : Delivery}, s₀.Sound →
    Session.Run (fun _ _ => True) s₀ before s₁ → Session.Move s₁ deed s₂ →
    (deed = .arrived sub stream d ∨ deed = .returned sub stream d) →
    Session.Run (fun _ _ => True) s₂ after s → sub.consumer.contract.payloadType = t →
    Payloadless d.message.body →
    s.tasksOf (s₁.broker.handedOver + 1) = [] ∧
      (∀ payload, Sight.handled payload ∉
        accountOf (s₁.broker.handedOver + 1) (before ++ ⟨deed, s₁.since s₂⟩ :: after)) ∧
      .resolved .poisoned ∈
        accountOf (s₁.broker.handedOver + 1) (before ++ ⟨deed, s₁.since s₂⟩ :: after)

/-- All payload types but the optional text need a payload. -/
theorem needs_payload_iff (name : String) :
    (PayloadType.named name).NeedsPayload ↔ name ≠ "OptString" := by
  constructor
  · rintro needs rfl
    obtain ⟨reason, h⟩ := needs.malformed payloadless_idOnly
    rw [decode_idOnly] at h
    cases h
  · intro hname
    have unread : ∀ {body}, Payloadless body →
        ∃ reason, decode (.named name) body = .error (.malformed reason) :=
      decode_payloadless (absent?_named hname)
    refine ⟨unread, fun hs run m hd run' htype hbody => ?_⟩
    obtain ⟨reason, h⟩ := unread hbody
    exact Session.dropped_of_error hs run m hd run' (htype ▸ h)

/-- An optional text is absent, and that is its payload. -/
theorem absent_is_null :
    Payloadless idOnly ∧ decode (.named "OptString") idOnly = .ok ⟨"1", .null⟩ :=
  ⟨payloadless_idOnly, decode_idOnly⟩

end Courier
