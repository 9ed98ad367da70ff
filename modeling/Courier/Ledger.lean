import Courier.Keyed

/-! How often each message has been sent back for another attempt. -/
namespace Courier

structure Ledger where
  counts : Keyed UInt32 := []

namespace Ledger

def maxCount : UInt32 := 4294967295

def count? (l : Ledger) (id : String) : Option UInt32 := l.counts.get? id

/-- The count of a message; none is kept of a message that was never sent back. -/
def get (l : Ledger) (id : String) : UInt32 := (l.count? id).getD 0

/-- The greatest count is not exceeded. -/
def succ (n : UInt32) : UInt32 := if n = maxCount then n else n + 1

def increment (l : Ledger) (id : String) : Ledger := ⟨l.counts.put id (succ (l.get id))⟩

def remove (l : Ledger) (id : String) : Ledger := ⟨l.counts.erase id⟩

def size (l : Ledger) : Nat := l.counts.length

def isEmpty (l : Ledger) : Bool := l.counts.isEmpty

/-- Increments several times at once. -/
def incrementTimes (l : Ledger) (id : String) (times : Nat) : Ledger :=
  if times = 0 then l
  else ⟨l.counts.put id (UInt32.ofNat (min ((l.get id).toNat + times) maxCount.toNat))⟩

theorem count?_increment (l : Ledger) (i j : String) :
    (l.increment i).count? j = if i = j then some (succ (l.get i)) else l.count? j :=
  Keyed.get?_put i j _ l.counts

theorem count?_remove (l : Ledger) (i j : String) :
    (l.remove i).count? j = if i = j then none else l.count? j :=
  Keyed.get?_erase i j l.counts

theorem count?_incrementTimes_of_ne (l : Ledger) {i j : String} (h : i ≠ j) (times : Nat) :
    (l.incrementTimes i times).count? j = l.count? j := by
  unfold incrementTimes
  split
  · rfl
  · exact (Keyed.get?_put i j _ l.counts).trans (if_neg h)

theorem count?_of_isEmpty {l : Ledger} (h : l.isEmpty = true) (id : String) :
    l.count? id = none := by
  unfold count?
  rw [List.isEmpty_iff.mp h]
  rfl

theorem isEmpty_of_count? {l : Ledger} (h : ∀ id, l.count? id = none) : l.isEmpty = true := by
  unfold isEmpty
  unfold count? at h
  cases hc : l.counts with
  | nil => rfl
  | cons e rest =>
    have := h e.1
    simp [hc, Keyed.get?] at this

theorem get_increment (l : Ledger) (i j : String) :
    (l.increment i).get j = if i = j then succ (l.get i) else l.get j := by
  by_cases h : i = j <;> simp [get, count?_increment, h]

theorem get_remove (l : Ledger) (i j : String) :
    (l.remove i).get j = if i = j then 0 else l.get j := by
  by_cases h : i = j <;> simp [get, count?_remove, h]

theorem toNat_succ (n : UInt32) : (succ n).toNat = min (n.toNat + 1) maxCount.toNat := by
  have hn := n.toNat_lt
  unfold succ
  split
  · next h =>
    subst h
    decide
  · next h =>
    have hne : n.toNat ≠ 4294967295 := fun e => h (UInt32.toNat_inj.mp e)
    have hm : maxCount.toNat = 4294967295 := rfl
    have h1 : (1 : UInt32).toNat = 1 := rfl
    rw [UInt32.toNat_add, h1, hm]
    omega

theorem toNat_succ_of_lt {n limit : UInt32} (h : n < limit) : (succ n).toNat = n.toNat + 1 := by
  have hl : n.toNat < limit.toNat := h
  have hlimit := limit.toNat_lt
  have hm : maxCount.toNat = 4294967295 := rfl
  rw [toNat_succ]
  omega

theorem toNat_ofNat_min (n : Nat) :
    (UInt32.ofNat (min n maxCount.toNat)).toNat = min n maxCount.toNat := by
  have hm : maxCount.toNat = 4294967295 := rfl
  rw [UInt32.toNat_ofNat', Nat.mod_eq_of_lt (by omega)]

theorem incrementTimes_zero (l : Ledger) (id : String) : l.incrementTimes id 0 = l := rfl

theorem incrementTimes_succ (l : Ledger) (id : String) (n : Nat) :
    l.incrementTimes id (n + 1) = (l.incrementTimes id n).increment id := by
  have hc := (l.get id).toNat_lt
  have hm : maxCount.toNat = 4294967295 := rfl
  cases n with
  | zero =>
    simp only [incrementTimes, increment, if_true, if_neg (Nat.succ_ne_zero 0)]
    congr 2
    apply UInt32.toNat_inj.mp
    rw [toNat_ofNat_min, toNat_succ]
  | succ n =>
    simp only [incrementTimes, increment, if_neg (Nat.succ_ne_zero _), get, count?, Keyed.get?_put,
      if_true, Option.getD_some, Keyed.put_put]
    congr 2
    apply UInt32.toNat_inj.mp
    rw [toNat_ofNat_min, toNat_succ, toNat_ofNat_min]
    omega

end Ledger
end Courier
