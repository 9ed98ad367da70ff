import Courier.Keyed
import Mathlib.Data.Finset.Card

/-! Keyed entries stay in the order of their keys, and are as many as their keys. -/
namespace Courier.Keyed
variable {α : Type} {m : Keyed α} {key : String}

theorem isSome_get? : (m.get? key).isSome = true ↔ key ∈ m.map Prod.fst := by
  induction m with
  | nil => simp
  | cons e rest ih =>
    obtain ⟨k, v⟩ := e
    by_cases hk : k = key
    · simp [get?, hk]
    · have hk' : key ≠ k := fun h => hk h.symm
      simp [get?, hk, hk', ih]

theorem mem_keys_put {key' : String} {value : α} :
    key' ∈ (m.put key value).map Prod.fst ↔ key' = key ∨ key' ∈ m.map Prod.fst := by
  rw [← isSome_get?, ← isSome_get?, get?_put]
  by_cases h : key = key'
  · simp [h]
  · have h' : key' ≠ key := fun e => h e.symm
    simp [h, h']

/-- Entries stay in the order of their keys. -/
theorem sorted_put {value : α} (h : (m.map Prod.fst).Pairwise (· < ·)) :
    ((m.put key value).map Prod.fst).Pairwise (· < ·) := by
  induction m with
  | nil => simp [put]
  | cons e rest ih =>
    obtain ⟨k, v⟩ := e
    rw [List.map_cons, List.pairwise_cons] at h
    obtain ⟨hfirst, hrest⟩ := h
    unfold put
    by_cases hk : key = k
    · rw [if_pos hk, List.map_cons, List.pairwise_cons]
      exact ⟨hk ▸ hfirst, hrest⟩
    · rw [if_neg hk]
      by_cases hlt : key < k
      · rw [if_pos hlt, List.map_cons, List.pairwise_cons]
        refine ⟨fun k' hk' => ?_, List.pairwise_cons.mpr ⟨hfirst, hrest⟩⟩
        rcases List.mem_cons.mp hk' with rfl | hk'
        · exact hlt
        · exact String.lt_trans hlt (hfirst k' hk')
      · rw [if_neg hlt, List.map_cons, List.pairwise_cons]
        refine ⟨fun k' hk' => ?_, ih hrest⟩
        rcases mem_keys_put.mp hk' with rfl | hk'
        · have hle : k ≤ k' := String.not_lt.mp hlt
          exact Std.lt_of_le_of_ne hle fun e => hk e.symm
        · exact hfirst k' hk'

theorem erase_sublist (key : String) (m : Keyed α) : (m.erase key).Sublist m := by
  induction m with
  | nil => exact List.Sublist.slnil
  | cons e rest ih =>
    obtain ⟨k, v⟩ := e
    unfold erase
    split
    · exact ih.cons _
    · exact ih.cons_cons _

theorem sorted_erase (h : (m.map Prod.fst).Pairwise (· < ·)) :
    ((m.erase key).map Prod.fst).Pairwise (· < ·) :=
  h.sublist ((erase_sublist key m).map Prod.fst)

theorem nodup_keys (h : (m.map Prod.fst).Pairwise (· < ·)) : (m.map Prod.fst).Nodup := by
  refine h.imp fun {k k'} hlt => ?_
  rintro rfl
  exact String.lt_irrefl k hlt

/-- Entries in order are as many as the keys that something is found under. -/
theorem exists_keys (h : (m.map Prod.fst).Pairwise (· < ·)) :
    ∃ keys : Finset String,
      (∀ key, key ∈ keys ↔ (m.get? key).isSome = true) ∧ m.length = keys.card := by
  refine ⟨(m.map Prod.fst).toFinset, fun key => ?_, ?_⟩
  · rw [List.mem_toFinset, isSome_get?]
  · rw [List.toFinset_card_of_nodup (nodup_keys h), List.length_map]

theorem erase_of_get?_none (h : m.get? key = none) : m.erase key = m := by
  induction m with
  | nil => rfl
  | cons e rest ih =>
    obtain ⟨k, v⟩ := e
    unfold get? at h
    split at h
    · cases h
    · next hk =>
      rw [erase, if_neg hk, ih h]

/-- A new entry is taken away without a trace. -/
theorem erase_put (h : m.get? key = none) (value : α) : (m.put key value).erase key = m := by
  induction m with
  | nil => simp [put, erase]
  | cons e rest ih =>
    obtain ⟨k, v⟩ := e
    unfold get? at h
    split at h
    · cases h
    · next hk =>
      have hrest := erase_of_get?_none h
      rw [put, if_neg (Ne.symm hk)]
      split
      · rw [erase, if_pos rfl, erase, if_neg hk, hrest]
      · rw [erase, if_neg hk, ih h]

/-- A key behind all others goes to the end. -/
theorem put_last (h : ∀ e ∈ m, e.1 < key) (value : α) : m.put key value = m ++ [(key, value)] := by
  induction m with
  | nil => rfl
  | cons e rest ih =>
    obtain ⟨k, v⟩ := e
    have hk : k < key := h (k, v) List.mem_cons_self
    have hne : key ≠ k := fun he => String.lt_irrefl k (he ▸ hk)
    rw [put, if_neg hne, if_neg (String.lt_asymm hk),
      ih fun e he => h e (List.mem_cons_of_mem _ he)]
    rfl

/-- Entries that are in order already are kept as they are. -/
theorem ofEntries_of_sorted {entries : List (String × α)}
    (h : (entries.map Prod.fst).Pairwise (· < ·)) : ofEntries entries = entries := by
  have folded : ∀ (m : Keyed α) (entries : List (String × α)),
      ((m ++ entries).map Prod.fst).Pairwise (· < ·) →
        entries.foldl (fun m e => m.put e.1 e.2) m = m ++ entries := by
    intro m entries h
    induction entries generalizing m with
    | nil => exact (List.append_nil m).symm
    | cons e entries ih =>
      have hlast : ∀ e' ∈ m, e'.1 < e.1 := by
        intro e' he'
        rw [List.map_append, List.pairwise_append] at h
        exact h.2.2 e'.1 (List.mem_map_of_mem he') e.1 List.mem_cons_self
      have hassoc : m ++ e :: entries = (m ++ [e]) ++ entries := by simp
      rw [List.foldl_cons, put_last hlast, ih (m ++ [e]) (hassoc ▸ h), hassoc]
  exact folded [] entries h

end Courier.Keyed
