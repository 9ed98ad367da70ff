import Courier.Proofs.Ledger.Accounting
import Mathlib.Data.List.Induction

/-! Records of two messages that share a count: when the retries of one of them, its own, are as
many as it is allowed. -/
namespace Courier

/-- The count begins at nothing, then exactly `limit` own retries are counted with no others, and
after that the count is not forgotten. -/
def InOneGo (ledger : Nat) (id : String) (own : Record → Bool) (limit : Nat) (h : List Record) :
    Prop :=
  ∃ h₁ h₂ h₃, h = h₁ ++ h₂ ++ h₃ ∧ h₁.countP own = 0 ∧ retriesSince ledger id h₁ = 0 ∧
    h₂.countP own = limit ∧ retries ledger id h₂ = limit ∧ forgettings ledger id h₂ = 0 ∧
    forgettings ledger id h₃ = 0

/-- What is known as long as the own message is unresolved. `ended`: the other one is resolved. -/
structure Shared (ledger : Nat) (id : String) (own : Record → Bool) (limit : Nat) (ended : Prop)
    (h : List Record) : Prop where
  forgotten : ended → ∃ h₁ h₂, h = h₁ ++ h₂ ∧ retriesSince ledger id h₁ = 0 ∧
    forgettings ledger id h₂ = 0 ∧ retries ledger id h₂ = h₂.countP own
  kept : ¬ ended → forgettings ledger id h = 0
  last : ∃ h₁ h₂, h = h₁ ++ h₂ ∧ h₂.countP own = 0 ∧
    (forgettings ledger id h = 0 → retries ledger id h₁ ≤ limit)
  spent : ∀ h₁ h₂, h = h₁ ++ h₂ → limit ≤ retriesSince ledger id h₁ →
    forgettings ledger id h₂ = 0 → h₂.countP own = 0 ∧ limit ≤ retriesSince ledger id h

section
variable {ledger : Nat} {id : String} {own : Record → Bool} {limit : Nat} {ended : Prop}
  {h h₁ h₂ : List Record} {r : Record}

theorem retriesSince_of_forgettings (hf : forgettings ledger id h₂ = 0) :
    retriesSince ledger id (h₁ ++ h₂) = retriesSince ledger id h₁ + retries ledger id h₂ := by
  induction h₂ using List.reverseRecOn with
  | nil => rw [List.append_nil]; rfl
  | append_singleton h₂ r ih =>
    rw [forgettings_append] at hf
    have hr : r.deed.forgets ledger id = false := by
      rw [Bool.eq_false_iff]
      intro hne
      simp [hne] at hf
    rw [← List.append_assoc, retriesSince_append, retries_append, ih (by omega), hr]
    simp only [Bool.false_eq_true, if_false]
    omega

theorem retriesSince_of_none (hf : forgettings ledger id h = 0) :
    retriesSince ledger id h = retries ledger id h := by
  have hsplit : retriesSince ledger id ([] ++ h) = _ := retriesSince_of_forgettings hf
  rw [List.nil_append] at hsplit
  rw [hsplit]
  exact Nat.zero_add _

theorem countP_own_le (hown : ∀ r ∈ h, own r = true → r.deed.sendsBack ledger id = true) :
    h.countP own ≤ retries ledger id h :=
  List.countP_mono_left hown

/-- The last record belongs to the front part of the records or to their end. -/
theorem split_append {h₁ h₂ : List Record} (he : h ++ [r] = h₁ ++ h₂) :
    h₂ = [] ∧ h₁ = h ++ [r] ∨ ∃ h₂', h₂ = h₂' ++ [r] ∧ h = h₁ ++ h₂' := by
  rcases List.eq_nil_or_concat h₂ with rfl | ⟨h₂', r', rfl⟩
  · exact Or.inl ⟨rfl, by rw [he, List.append_nil]⟩
  · rw [List.concat_eq_append] at he ⊢
    rw [← List.append_assoc] at he
    obtain ⟨hh, hr⟩ := List.append_inj' he rfl
    rw [List.singleton_inj.mp hr]
    exact Or.inr ⟨h₂', rfl, hh⟩

theorem Shared.congr {ended' : Prop} (s : Shared ledger id own limit ended h)
    (ho : ended ↔ ended') :
    Shared ledger id own limit ended' h := propext ho ▸ s

theorem Shared.start : Shared ledger id own limit False [] where
  forgotten := False.elim
  kept _ := rfl
  last := ⟨[], [], rfl, rfl, fun _ => Nat.zero_le _⟩
  spent h₁ h₂ he hl _ := by
    obtain ⟨rfl, rfl⟩ := List.append_eq_nil_iff.mp he.symm
    exact ⟨rfl, hl⟩

/-- After the limit has been reached there is no own retry until the count is forgotten. -/
theorem Shared.spent_append (s : Shared ledger id own limit ended h)
    (hr : own r = true → retriesSince ledger id h < limit) :
    ∀ h₁ h₂, h ++ [r] = h₁ ++ h₂ → limit ≤ retriesSince ledger id h₁ →
      forgettings ledger id h₂ = 0 →
      h₂.countP own = 0 ∧ limit ≤ retriesSince ledger id (h ++ [r]) := by
  intro h₁ h₂ he hl hf
  rcases split_append he with ⟨rfl, rfl⟩ | ⟨h₂', rfl, rfl⟩
  · exact ⟨rfl, hl⟩
  · rw [forgettings_append] at hf
    obtain ⟨hc, hs⟩ := s.spent h₁ h₂' rfl hl (by omega)
    have hn : own r = false := by
      rw [Bool.eq_false_iff]
      intro hne
      have := hr hne
      omega
    refine ⟨by simp [hc, hn], ?_⟩
    rw [retriesSince_append]
    split at hf
    · omega
    · next hfr =>
      rw [if_neg hfr]
      omega

/-- A record that changes no count. -/
theorem Shared.neutral (s : Shared ledger id own limit ended h)
    (hs : r.deed.sendsBack ledger id = false) (hf : r.deed.forgets ledger id = false)
    (hr : own r = false) : Shared ledger id own limit ended (h ++ [r]) where
  forgotten ho := by
    obtain ⟨h₁, h₂, rfl, hsince, hforg, hret⟩ := s.forgotten ho
    refine ⟨h₁, h₂ ++ [r], by simp, hsince, ?_, ?_⟩
    · rw [forgettings_append, hforg, hf]
      rfl
    · rw [retries_append, hret, hs]
      simp [hr]
  kept ho := by
    rw [forgettings_append, s.kept ho, hf]
    rfl
  last := by
    obtain ⟨h₁, h₂, rfl, hown, hret⟩ := s.last
    refine ⟨h₁, h₂ ++ [r], by simp, by simp [hown, hr], fun hz => hret ?_⟩
    rw [forgettings_append] at hz
    omega
  spent := s.spent_append fun h => by rw [hr] at h; cases h

/-- An own retry. -/
theorem Shared.retry (s : Shared ledger id own limit ended h)
    (hs : r.deed.sendsBack ledger id = true) (hr : own r = true)
    (hlt : retriesSince ledger id h < limit) : Shared ledger id own limit ended (h ++ [r]) where
  forgotten ho := by
    obtain ⟨h₁, h₂, rfl, hsince, hforg, hret⟩ := s.forgotten ho
    refine ⟨h₁, h₂ ++ [r], by simp, hsince, ?_, ?_⟩
    · rw [forgettings_append, hforg, Deed.forgets_of_sendsBack hs]
      rfl
    · rw [retries_append, hret, hs]
      simp [hr]
  kept ho := by
    rw [forgettings_append, s.kept ho, Deed.forgets_of_sendsBack hs]
    rfl
  last := by
    refine ⟨h ++ [r], [], by simp, rfl, fun hz => ?_⟩
    rw [forgettings_append] at hz
    rw [retriesSince_of_none (by omega)] at hlt
    rw [retries_append, hs]
    exact hlt
  spent := s.spent_append fun _ => hlt

/-- A retry of the other message. -/
theorem Shared.foreign (s : Shared ledger id own limit ended h)
    (hs : r.deed.sendsBack ledger id = true) (hr : own r = false) (ho : ¬ ended) :
    Shared ledger id own limit ended (h ++ [r]) where
  forgotten h := absurd h ho
  kept _ := by
    rw [forgettings_append, s.kept ho, Deed.forgets_of_sendsBack hs]
    rfl
  last := by
    obtain ⟨h₁, h₂, rfl, hown, hret⟩ := s.last
    refine ⟨h₁, h₂ ++ [r], by simp, by simp [hown, hr], fun hz => hret ?_⟩
    rw [forgettings_append] at hz
    omega
  spent := s.spent_append fun h => by rw [hr] at h; cases h

/-- The other message is resolved. -/
theorem Shared.forget (s : Shared ledger id own limit ended h)
    (hf : r.deed.forgets ledger id = true) (hr : own r = false) :
    Shared ledger id own limit True (h ++ [r]) where
  forgotten _ := by
    refine ⟨h ++ [r], [], by simp, ?_, rfl, rfl⟩
    rw [retriesSince_append, if_pos hf]
  kept ho := absurd trivial ho
  last := by
    obtain ⟨h₁, h₂, rfl, hown, -⟩ := s.last
    refine ⟨h₁, h₂ ++ [r], by simp, by simp [hown, hr], fun hz => ?_⟩
    rw [forgettings_append, if_pos hf] at hz
    omega
  spent := s.spent_append fun h => by rw [hr] at h; cases h

/-- When the limit is reached, the own retries are as many just in case they were counted in one
go. -/
theorem Shared.countP_eq_iff (s : Shared ledger id own limit ended h)
    (hown : ∀ r ∈ h, own r = true → r.deed.sendsBack ledger id = true)
    (hl : limit ≤ retriesSince ledger id h) :
    h.countP own = limit ↔ InOneGo ledger id own limit h := by
  constructor
  · intro hc
    by_cases ho : ended
    · obtain ⟨h₁, h₂, rfl, hsince, hforg, hret⟩ := s.forgotten ho
      rw [retriesSince_of_forgettings hforg] at hl
      rw [List.countP_append] at hc
      exact ⟨h₁, h₂, [], by simp, by omega, hsince, by omega, by omega, hforg, rfl⟩
    · have hz := s.kept ho
      obtain ⟨h₁, h₂, rfl, hnone, hret⟩ := s.last
      have hle := countP_own_le fun r hr => hown r (List.mem_append_left h₂ hr)
      have hret := hret hz
      have hsplit : forgettings ledger id h₁ + forgettings ledger id h₂ = 0 := by
        unfold forgettings at hz ⊢
        rw [← List.countP_append]
        exact hz
      rw [List.countP_append] at hc
      exact ⟨[], h₁, h₂, rfl, rfl, rfl, by omega, by omega, by omega, by omega⟩
  · rintro ⟨h₁, h₂, h₃, rfl, hbefore, hsince, hcount, hret, hforg, hafter⟩
    have hreached : limit ≤ retriesSince ledger id (h₁ ++ h₂) := by
      rw [retriesSince_of_forgettings hforg]
      omega
    have hnone := (s.spent (h₁ ++ h₂) h₃ rfl hreached hafter).1
    rw [List.countP_append, List.countP_append]
    omega

end
end Courier
