import Courier.Proofs.Keyed
import Courier.Registry
import Mathlib.Data.List.Induction

/-! A registry is its history: it holds an address for the owner whose claim succeeded, until the
address is released. -/
namespace Courier.Registry

section
variable {r r' : Registry} {address owner : String}

theorem register_ok (h : r.register address owner = .ok r') :
    r.owners.get? address = none ∧ r' = ⟨r.owners.put address owner⟩ := by
  unfold register at h
  split at h
  · cases h
  · split at h
    · cases h
    · next hnone => exact ⟨hnone, (Except.ok.inj h).symm⟩

/-- A claim that is given up leaves the registry as it was before. -/
theorem release_register (h : r.register address owner = .ok r') : r'.release address = r := by
  obtain ⟨hnone, rfl⟩ := register_ok h
  exact congrArg Registry.mk (Keyed.erase_put hnone owner)

/-- A claim is on the address it names. -/
theorem contains_put (r : Registry) (address other owner : String) :
    Registry.contains ⟨r.owners.put address owner⟩ other =
      (decide (address = other) || r.contains other) := by
  unfold contains
  rw [Keyed.get?_put]
  by_cases h : address = other
  · simp [h]
  · simp [h]

theorem register_blank (hblank : Text.allBlank address = true) :
    r.register address owner = .error (ContractFault.blankAddress owner).error := by
  unfold register
  rw [if_pos hblank]

theorem register_free (hblank : Text.allBlank address = false)
    (h : r.owners.get? address = none) :
    r.register address owner = .ok ⟨r.owners.put address owner⟩ := by
  unfold register
  rw [hblank, h]
  rfl

theorem register_held {holder : String} (hblank : Text.allBlank address = false)
    (h : r.owners.get? address = some holder) :
    r.register address owner = .error (.duplicateAddress address holder) := by
  unfold register
  rw [hblank, h]
  rfl

/-- An address is refused as taken only when it is held. -/
theorem register_duplicate {a holder : String}
    (h : r.register address owner = .error (.duplicateAddress a holder)) :
    a = address ∧ r.owners.get? address = some holder := by
  unfold register at h
  split at h
  · cases h
  · split at h
    · next hsome =>
      cases h
      exact ⟨rfl, hsome⟩
    · cases h

end

/-- What can be done to a registry. -/
inductive Operation where
  | register (address owner : String)
  | release (address : String)
  deriving DecidableEq

/-- Carries out an operation. The registry is left alone by a claim that is refused. -/
def perform (r : Registry) : Operation → Except TopologyError Unit × Registry
  | .register address owner =>
    match r.register address owner with
    | .ok claimed => (.ok (), claimed)
    | .error e => (.error e, r)
  | .release address => (.ok (), r.release address)

/-- What a history of operations makes of an empty registry. -/
def after (h : List Operation) : Registry := h.foldl (fun r op => (r.perform op).2) {}

/-- The owner claimed the address with success, and it was not released since. -/
def Holds (h : List Operation) (address owner : String) : Prop :=
  ∃ before later, h = before ++ .register address owner :: later ∧
    ((after before).perform (.register address owner)).1 = .ok () ∧ .release address ∉ later

section
variable {r r' : Registry} {h : List Operation} {op : Operation} {address owner : String}

theorem after_concat : after (h ++ [op]) = ((after h).perform op).2 := by
  unfold after
  rw [List.foldl_concat]

theorem perform_claimed (hreg : r.register address owner = .ok r') :
    r.perform (.register address owner) = (.ok (), r') := by
  unfold perform
  dsimp only
  rw [hreg]

theorem perform_refused {e : TopologyError} (hreg : r.register address owner = .error e) :
    r.perform (.register address owner) = (.error e, r) := by
  unfold perform
  dsimp only
  rw [hreg]

theorem perform_register_eq_ok :
    (r.perform (.register address owner)).1 = .ok () ↔
      ∃ claimed, r.register address owner = .ok claimed := by
  cases hreg : r.register address owner with
  | ok claimed => simp [perform_claimed hreg]
  | error e => simp [perform_refused hreg]

theorem perform_of_error {e : TopologyError} (herror : (r.perform op).1 = .error e) :
    (r.perform op).2 = r := by
  cases op with
  | register address owner =>
    cases hreg : r.register address owner with
    | ok claimed =>
      rw [perform_claimed hreg] at herror
      cases herror
    | error e' => rw [perform_refused hreg]
  | release address => cases herror

/-- Where the owner of an address comes from. -/
theorem owner_perform :
    (r.perform op).2.owners.get? address = some owner ↔
      op = .register address owner ∧ (r.perform op).1 = .ok () ∨
        r.owners.get? address = some owner ∧ op ≠ .release address := by
  cases op with
  | register other claimant =>
    cases hreg : r.register other claimant with
    | ok claimed =>
      obtain ⟨hfree, rfl⟩ := register_ok hreg
      simp only [perform_claimed hreg, Keyed.get?_put]
      by_cases hother : other = address
      · subst hother
        simp [hfree]
      · simp [hother]
    | error e => simp [perform_refused hreg]
  | release other =>
    by_cases hother : other = address
    · simp [perform, release, Keyed.get?_erase, hother]
    · simp [perform, release, Keyed.get?_erase, hother]

theorem holds_concat :
    Holds (h ++ [op]) address owner ↔
      op = .register address owner ∧ ((after h).perform op).1 = .ok () ∨
        Holds h address owner ∧ op ≠ .release address := by
  constructor
  · rintro ⟨before, later, heq, hok, hkept⟩
    rcases List.eq_nil_or_concat later with rfl | ⟨later, last, rfl⟩
    · obtain ⟨rfl, hop⟩ := List.append_inj' heq rfl
      rw [(List.cons.inj hop).1]
      exact Or.inl ⟨rfl, hok⟩
    · rw [List.concat_eq_append, ← List.cons_append, ← List.append_assoc] at heq
      obtain ⟨rfl, hop⟩ := List.append_inj' heq rfl
      rw [(List.cons.inj hop).1]
      rw [List.concat_eq_append, List.mem_append, List.mem_singleton, not_or] at hkept
      exact Or.inr ⟨⟨before, later, rfl, hok, hkept.1⟩, Ne.symm hkept.2⟩
  · rintro (⟨rfl, hok⟩ | ⟨⟨before, later, rfl, hok, hkept⟩, hop⟩)
    · exact ⟨h, [], rfl, hok, List.not_mem_nil⟩
    · refine ⟨before, later ++ [op], by simp, hok, ?_⟩
      simp [hkept, Ne.symm hop]

end

theorem owner_after (h : List Operation) (address owner : String) :
    (after h).owners.get? address = some owner ↔ Holds h address owner := by
  induction h using List.reverseRecOn with
  | nil =>
    refine ⟨fun hnone => (nomatch hnone), ?_⟩
    rintro ⟨before, later, heq, -⟩
    simp at heq
  | append_singleton h op ih => rw [after_concat, owner_perform, holds_concat, ih]

theorem contains_after (h : List Operation) (address : String) :
    (after h).contains address = true ↔ ∃ owner, Holds h address owner := by
  unfold contains
  rw [Option.isSome_iff_exists]
  exact exists_congr (owner_after h address)

theorem Holds.not_blank {h : List Operation} {address owner : String}
    (holds : Holds h address owner) : Text.allBlank address = false := by
  obtain ⟨before, -, -, hok, -⟩ := holds
  rw [Bool.eq_false_iff]
  intro hblank
  rw [perform_refused (register_blank hblank)] at hok
  cases hok

theorem sorted_after (h : List Operation) :
    ((after h).owners.map Prod.fst).Pairwise (· < ·) := by
  induction h using List.reverseRecOn with
  | nil => exact List.Pairwise.nil
  | append_singleton h op ih =>
    rw [after_concat]
    cases op with
    | register address owner =>
      cases hreg : (after h).register address owner with
      | ok claimed =>
        obtain ⟨-, rfl⟩ := register_ok hreg
        rw [perform_claimed hreg]
        exact Keyed.sorted_put ih
      | error e => rwa [perform_refused hreg]
    | release address => exact Keyed.sorted_erase ih

/-- After any claims and releases a registry contains the addresses that were claimed with success
and not released since, and as many as they are. A claim on one of them is refused in the name of
the owner who holds it, any other succeeds unless the address is blank, and a claim that is refused
changes nothing. -/
theorem contains_history (h : List Operation) :
    (∀ address, (after h).contains address = true ↔ ∃ owner, Holds h address owner) ∧
    (∀ address owner, Text.allBlank address = true →
      (after h).contains address = false ∧
        ((after h).perform (.register address owner)).1 =
          .error (ContractFault.blankAddress owner).error) ∧
    (∀ address owner, Text.allBlank address = false →
      (((after h).perform (.register address owner)).1 = .ok () ↔
        (after h).contains address = false) ∧
      ∀ holder, Holds h address holder →
        ((after h).perform (.register address owner)).1 =
          .error (.duplicateAddress address holder)) ∧
    (∀ op e, ((after h).perform op).1 = .error e → ((after h).perform op).2 = after h) ∧
    ∃ addresses : Finset String,
      (∀ address, address ∈ addresses ↔ (after h).contains address = true) ∧
        (after h).size = addresses.card := by
  refine ⟨contains_after h, ?_, ?_, fun op e => perform_of_error,
    Keyed.exists_keys (sorted_after h)⟩
  · intro address owner hblank
    constructor
    · rw [Bool.eq_false_iff]
      intro hcontains
      obtain ⟨holder, holds⟩ := (contains_after h address).mp hcontains
      rw [holds.not_blank] at hblank
      cases hblank
    · rw [perform_refused (register_blank hblank)]
  · intro address owner hblank
    refine ⟨?_, fun holder holds => ?_⟩
    · rw [perform_register_eq_ok]
      unfold contains
      rw [Option.isSome_eq_false_iff, Option.isNone_iff_eq_none]
      constructor
      · rintro ⟨claimed, hreg⟩
        exact (register_ok hreg).1
      · intro hfree
        exact ⟨_, register_free hblank hfree⟩
    · rw [perform_refused (register_held hblank ((owner_after h address holder).mpr holds))]

/-- An address changes hands only when it is released. -/
theorem second_owner_holds :
    let h : List Operation :=
      [.register "q" "first", .register "q" "second", .register " " "first", .release "p"]
    let h' := h ++ [.release "q", .register "q" "second"]
    Text.allBlank "q" = false ∧ Holds h "q" "first" ∧ Holds h' "q" "second" ∧
      ((after h).perform (.register "q" "second")).1 = .error (.duplicateAddress "q" "first") ∧
      ((after h').perform (.register "q" "first")).1 = .error (.duplicateAddress "q" "second") := by
  intro h h'
  have hblank : Text.allBlank "q" = false := by decide
  have first : Holds h "q" "first" := ⟨[], h.tail, rfl, by decide +kernel, by decide⟩
  have second : Holds h' "q" "second" :=
    ⟨h ++ [.release "q"], [], rfl, by decide +kernel, by decide⟩
  have claim := (contains_history h).2.2.1 "q" "second" hblank
  have claim' := (contains_history h').2.2.1 "q" "first" hblank
  exact ⟨hblank, first, second, claim.2 "first" first, claim'.2 "second" second⟩

end Courier.Registry
