/-! Entries in the order of their keys, one for a key. -/
namespace Courier

abbrev Keyed (α : Type) := List (String × α)

namespace Keyed
variable {α : Type}

def get? (key : String) : Keyed α → Option α
  | [] => none
  | (k, v) :: rest => if k = key then some v else get? key rest

/-- Gives `key` the value `value`, in place of an older one. -/
def put (key : String) (value : α) : Keyed α → Keyed α
  | [] => [(key, value)]
  | (k, v) :: rest =>
    if key = k then (key, value) :: rest
    else if key < k then (key, value) :: (k, v) :: rest
    else (k, v) :: put key value rest

def erase (key : String) : Keyed α → Keyed α
  | [] => []
  | (k, v) :: rest => if k = key then erase key rest else (k, v) :: erase key rest

/-- The entries of a list that may hold a key more than once: the last one counts. -/
def ofEntries (entries : List (String × α)) : Keyed α :=
  entries.foldl (fun m e => m.put e.1 e.2) []

@[simp] theorem get?_nil (key : String) : get? key ([] : Keyed α) = none := rfl

theorem get?_put (key key' : String) (value : α) (m : Keyed α) :
    get? key' (m.put key value) = if key = key' then some value else get? key' m := by
  induction m with
  | nil => simp [put, get?]
  | cons e rest ih =>
    obtain ⟨k, v⟩ := e
    by_cases hk : key = k
    · subst hk
      by_cases h : key = key' <;> simp [put, get?, h]
    · by_cases hlt : key < k
      · simp [put, get?, hk, hlt]
      · by_cases h : k = key'
        · subst h
          simp [put, get?, hk, hlt]
        · simp [put, get?, hk, hlt, h, ih]

theorem put_put (key : String) (v w : α) (m : Keyed α) : (m.put key v).put key w = m.put key w := by
  induction m with
  | nil => simp [put]
  | cons e rest ih =>
    obtain ⟨k, u⟩ := e
    by_cases hk : key = k
    · simp [put, hk]
    · by_cases hlt : key < k <;> simp [put, hk, hlt, ih]

theorem get?_erase (key key' : String) (m : Keyed α) :
    get? key' (m.erase key) = if key = key' then none else get? key' m := by
  induction m with
  | nil => simp [erase, get?]
  | cons e rest ih =>
    obtain ⟨k, v⟩ := e
    by_cases hk : k = key
    · subst hk
      by_cases h : k = key' <;> simp_all [erase, get?]
    · by_cases h : k = key'
      · subst h
        have : ¬ key = k := fun e => hk e.symm
        simp [erase, get?, hk, this]
      · simp [erase, get?, hk, h, ih]

end Keyed
end Courier
