import Courier.Broker.Basic

/-! Requests about deliveries and their effect on a broker. A tag names at most one message in
flight; other tags are not affected by what is done under it. -/
namespace Courier

namespace Plan
variable {κ α : Type} [DecidableEq κ]

/-- What is planned for the next occasions of a kind. -/
def ahead (kind : κ) : Plan κ α → List (Option α)
  | [] => []
  | (k, next) :: plan => if k = kind then next else ahead kind plan

theorem take_fst (kind : κ) (plan : Plan κ α) :
    (plan.take kind).1 = (plan.ahead kind).head?.join := by
  induction plan with
  | nil => rfl
  | cons e plan ih =>
    obtain ⟨k, next⟩ := e
    by_cases h : k = kind
    · simp [take, ahead, h]
    · simpa [take, ahead, h] using ih

theorem ahead_take (kind kind' : κ) (plan : Plan κ α) :
    (plan.take kind).2.ahead kind' =
      if kind = kind' then (plan.ahead kind').tail else plan.ahead kind' := by
  induction plan with
  | nil => simp [take, ahead]
  | cons e plan ih =>
    obtain ⟨k, next⟩ := e
    by_cases h : k = kind
    · subst h
      by_cases h' : k = kind' <;> simp [take, ahead, h']
    · by_cases h' : k = kind'
      · subst h'
        have hne : kind ≠ k := fun e => h e.symm
        simp [take, ahead, h, hne]
      · simpa [take, ahead, h, h'] using ih

end Plan

namespace Broker

/-- No request of this kind is going to fail. -/
def Grants (b : Broker) (rpc : Rpc) : Prop := ∀ fault ∈ b.faults.ahead rpc, fault = none

/-- What is in flight under a tag. -/
def parcel? (b : Broker) (tag : Nat) : Option Parcel := b.inFlight.find? (·.tag = tag)

/-- The broker when the next request of a kind has been made, apart from the effect of it. -/
def spend (b : Broker) (rpc : Rpc) : Broker := { b with faults := (b.faults.take rpc).2 }

theorem call_eq (b : Broker) (r : Request) :
    b.call r = match (b.faults.take r.rpc).1 with
      | some error => (.error error, b.spend r.rpc)
      | none => (.ok (), (b.spend r.rpc).after r) := rfl

theorem takeBack_faults (b : Broker) (tag : Nat) (requeue : Bool) :
    (b.takeBack tag requeue).faults = b.faults := by
  unfold takeBack
  split
  · rfl
  · dsimp only
    split <;> rfl

theorem after_faults (b : Broker) (r : Request) : (b.after r).faults = b.faults := by
  cases r with
  | publish =>
    unfold after
    dsimp only
    split <;> rfl
  | nack => exact takeBack_faults b _ _
  | _ => rfl

theorem call_faults (b : Broker) (r : Request) :
    (b.call r).2.faults = (b.faults.take r.rpc).2 := by
  rw [call_eq]
  split
  · rfl
  · exact after_faults _ r

/-- A request leaves the plan for requests of other kinds as it is. -/
theorem call_ahead (b : Broker) {r : Request} {rpc : Rpc} (h : r.rpc ≠ rpc) :
    (b.call r).2.faults.ahead rpc = b.faults.ahead rpc := by
  rw [call_faults, Plan.ahead_take, if_neg h]

theorem grants_call {b : Broker} {rpc : Rpc} (h : b.Grants rpc) (r : Request) :
    (b.call r).2.Grants rpc := by
  intro fault hf
  rw [call_faults, Plan.ahead_take] at hf
  split at hf
  · exact h fault (List.mem_of_mem_tail hf)
  · exact h fault hf

/-- A request that is granted has its effect. -/
theorem call_of_grants {b : Broker} {r : Request} (h : b.Grants r.rpc) :
    b.call r = (.ok (), (b.spend r.rpc).after r) := by
  have hn : (b.faults.take r.rpc).1 = none := by
    rw [Plan.take_fst]
    cases hd : b.faults.ahead r.rpc with
    | nil => rfl
    | cons fault rest => simp [h fault (by simp [hd])]
  rw [call_eq, hn]

section
variable (b : Broker) (tag : Nat)

theorem settled_parcel? {tag' : Nat} (h : tag' ≠ tag) :
    (b.settled tag).parcel? tag' = b.parcel? tag' := by
  unfold settled parcel?
  rw [List.find?_filter]
  congr 1
  funext p
  by_cases hp : p.tag = tag' <;> simp [hp, h]

theorem takeBack_returned :
    (b.takeBack tag true).returned =
      b.returned ++ if b.redelivers then (b.parcel? tag).toList else [] := by
  unfold takeBack parcel?
  cases hp : b.inFlight.find? (·.tag = tag) with
  | none => simp
  | some p => cases hr : b.redelivers <;> simp [settled, hr]

end

/-- What no request about a delivery under `tag` changes. -/
structure Apart (tag : Nat) (b b' : Broker) : Prop where
  redelivers : b'.redelivers = b.redelivers
  streams : b'.streams = b.streams
  handedOver : b'.handedOver = b.handedOver
  inFlight : b'.inFlight ⊆ b.inFlight
  parcels : ∀ {tag'}, tag' ≠ tag → b'.parcel? tag' = b.parcel? tag'
  grants : ∀ {rpc}, b.Grants rpc → b'.Grants rpc

theorem Apart.refl (tag : Nat) (b : Broker) : Apart tag b b :=
  ⟨rfl, rfl, rfl, List.Subset.refl _, fun _ => rfl, id⟩

theorem apart_call_ack (b : Broker) (tag : Nat) : Apart tag b (b.call (.ack tag false)).2 := by
  have hg : ∀ {rpc}, b.Grants rpc → (b.call (.ack tag false)).2.Grants rpc := fun h =>
    grants_call h _
  rw [call_eq] at hg ⊢
  split at hg
  · exact ⟨rfl, rfl, rfl, List.Subset.refl _, fun _ => rfl, hg⟩
  · have hp := @settled_parcel? (b.spend .ack) tag
    exact ⟨rfl, rfl, rfl, List.filter_sublist.subset, hp, hg⟩

theorem call_ack_returned (b : Broker) (tag : Nat) :
    (b.call (.ack tag false)).2.returned = b.returned := by
  rw [call_eq]
  split <;> rfl

theorem apart_takeBack (b : Broker) (tag : Nat) : Apart tag b (b.takeBack tag true) := by
  have hp := @settled_parcel? b tag
  unfold takeBack
  split
  · exact Apart.refl tag b
  · dsimp only
    split <;> exact ⟨rfl, rfl, rfl, List.filter_sublist.subset, hp, id⟩

theorem apart_call_nack (b : Broker) (tag : Nat) :
    Apart tag b (b.call (.nack tag false true)).2 := by
  have hg : ∀ {rpc}, b.Grants rpc → (b.call (.nack tag false true)).2.Grants rpc := fun h =>
    grants_call h _
  rw [call_eq] at hg ⊢
  split at hg
  · exact ⟨rfl, rfl, rfl, List.Subset.refl _, fun _ => rfl, hg⟩
  · have ha := apart_takeBack (b.spend .nack) tag
    exact ⟨ha.redelivers, ha.streams, ha.handedOver, ha.inFlight, ha.parcels, hg⟩

/-- What a broker that redelivers gets back it hands over again. -/
theorem call_nack_returned {b : Broker} (tag : Nat) (hg : b.Grants .nack)
    (hr : b.redelivers = true) :
    (b.call (.nack tag false true)).2.returned = b.returned ++ (b.parcel? tag).toList := by
  rw [call_of_grants (r := .nack tag false true) hg]
  have h := takeBack_returned (b.spend .nack) tag
  have hr' : (b.spend .nack).redelivers = true := hr
  rw [if_pos hr'] at h
  exact h

/-- Nothing comes back but what was in flight. -/
theorem call_nack_returned_cases (b : Broker) (tag : Nat) :
    (b.call (.nack tag false true)).2.returned = b.returned ∨
      ∃ p, b.parcel? tag = some p ∧
        (b.call (.nack tag false true)).2.returned = b.returned ++ [p] := by
  rw [call_eq]
  split
  · exact Or.inl rfl
  · have h := takeBack_returned (b.spend .nack) tag
    change _ = b.returned ++ if b.redelivers = true then (b.parcel? tag).toList else [] at h
    change ((b.spend .nack).takeBack tag true).returned = _ ∨
      ∃ p, _ ∧ ((b.spend .nack).takeBack tag true).returned = _
    rw [h]
    cases b.redelivers with
    | false => exact Or.inl (by simp)
    | true =>
      cases hp : b.parcel? tag with
      | none => exact Or.inl (by simp)
      | some p => exact Or.inr ⟨p, rfl, by simp⟩

theorem mem_inFlight_of_parcel? {b : Broker} {tag : Nat} {p : Parcel} (h : b.parcel? tag = some p) :
    p ∈ b.inFlight := List.mem_of_find?_eq_some h

section
variable (b : Broker) (stream : Nat) (message : Message) (tag : Option Nat)

theorem handOver_parcel?_self :
    (b.handOver stream message tag).2.parcel? (b.handOver stream message tag).1 =
      some ⟨(b.handOver stream message tag).1, stream, message⟩ := by
  simp [handOver, parcel?]

theorem handOver_parcel?_of_ne {tag' : Nat} (h : tag' ≠ (b.handOver stream message tag).1) :
    (b.handOver stream message tag).2.parcel? tag' = b.parcel? tag' := by
  have hne : (b.handOver stream message tag).1 ≠ tag' := fun e => h e.symm
  have hs := settled_parcel? b _ h
  unfold handOver parcel? at *
  dsimp only at *
  rw [List.find?_cons_of_neg (by simpa using hne)]
  exact hs

end

end Broker
end Courier
