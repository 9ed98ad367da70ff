import Courier.Ledger
import Courier.Proofs.Keyed
import Mathlib.Data.List.DropRight
import Mathlib.Data.List.Induction

/-! A ledger is its history: it counts the increments of each message since the message was last
removed, up to the greatest count, and has entries for just the messages that it counts any of. -/
namespace Courier.Ledger

/-- What can be done to a ledger. -/
inductive Operation where
  | get (id : String)
  | increment (id : String)
  | remove (id : String)
  deriving DecidableEq

/-- The message that an operation is about. -/
def Operation.message : Operation → String
  | .get id | .increment id | .remove id => id

/-- Carries out an operation. An increment tells the count that it leads to. -/
def perform (l : Ledger) : Operation → Option UInt32 × Ledger
  | .get id => (some (l.get id), l)
  | .increment id => (some ((l.increment id).get id), l.increment id)
  | .remove id => (none, l.remove id)

/-- What a history of operations makes of an empty ledger. -/
def after (h : List Operation) : Ledger := h.foldl (fun l op => (l.perform op).2) {}

/-- How often a message was counted since it was last removed. -/
def increments (id : String) (h : List Operation) : Nat :=
  (h.rtakeWhile (· ≠ .remove id)).count (.increment id)

section
variable {h : List Operation} {op : Operation} {id : String}

theorem after_concat : after (h ++ [op]) = ((after h).perform op).2 := by
  unfold after
  rw [List.foldl_concat]

theorem increments_concat :
    increments id (h ++ [op]) =
      if op = .remove id then 0 else increments id h + if op = .increment id then 1 else 0 := by
  unfold increments
  rw [List.rtakeWhile_concat]
  by_cases hremove : op = .remove id
  · simp [hremove]
  · simp [hremove, List.count_singleton]

/-- What an operation makes of the entry of a message. -/
theorem count?_perform (l : Ledger) :
    (l.perform op).2.count? id =
      if op = .remove id then none
      else if op = .increment id then some (succ (l.get id)) else l.count? id := by
  cases op with
  | get j => simp [perform]
  | increment j =>
    by_cases hj : j = id
    · simp [perform, count?_increment, hj]
    · simp [perform, count?_increment, hj]
  | remove j =>
    by_cases hj : j = id
    · simp [perform, count?_remove, hj]
    · simp [perform, count?_remove, hj]

/-- A message has an entry as soon as it was counted once. -/
theorem count?_after (h : List Operation) (id : String) :
    (after h).count? id =
      if increments id h = 0 then none
      else some (UInt32.ofNat (min (increments id h) maxCount.toNat)) := by
  induction h using List.reverseRecOn with
  | nil => rfl
  | append_singleton h op ih =>
    rw [after_concat, count?_perform, increments_concat]
    by_cases hremove : op = .remove id
    · simp [hremove]
    · by_cases hincrement : op = .increment id
      · have hget : succ ((after h).get id) =
            UInt32.ofNat (min (increments id h + 1) maxCount.toNat) := by
          apply UInt32.toNat_inj.mp
          rw [toNat_succ, toNat_ofNat_min, get, ih]
          split
          · next hzero => simp [hzero]
          · rw [Option.getD_some, toNat_ofNat_min]
            omega
        simp [hincrement, hget]
      · simp [hremove, hincrement, ih]

theorem toNat_get_after (h : List Operation) (id : String) :
    ((after h).get id).toNat = min (increments id h) maxCount.toNat := by
  unfold get
  rw [count?_after]
  split
  · next hzero => simp [hzero]
  · exact toNat_ofNat_min _

theorem isSome_count?_after (h : List Operation) (id : String) :
    ((after h).count? id).isSome = true ↔ 0 < increments id h := by
  rw [count?_after]
  split
  · next hzero => simp [hzero]
  · next hpos => simp [Nat.pos_of_ne_zero hpos]

theorem sorted_after (h : List Operation) :
    ((after h).counts.map Prod.fst).Pairwise (· < ·) := by
  induction h using List.reverseRecOn with
  | nil => exact List.Pairwise.nil
  | append_singleton h op ih =>
    rw [after_concat]
    cases op with
    | get j => exact ih
    | increment j => exact Keyed.sorted_put ih
    | remove j => exact Keyed.sorted_erase ih

theorem after_increments (h : List Operation) (id : String) (n : Nat) :
    after (h ++ List.replicate n (.increment id)) = (after h).incrementTimes id n := by
  induction n with
  | zero => rw [List.replicate_zero, List.append_nil, incrementTimes_zero]
  | succ n ih =>
    rw [List.replicate_succ', ← List.append_assoc, after_concat, ih, incrementTimes_succ]
    rfl

theorem toNat_get_incrementTimes (l : Ledger) (id : String) (n : Nat) :
    ((l.incrementTimes id n).get id).toNat = min ((l.get id).toNat + n) maxCount.toNat := by
  induction n with
  | zero =>
    have hlt := (l.get id).toNat_lt
    have hmax : maxCount.toNat = 4294967295 := rfl
    rw [incrementTimes_zero]
    omega
  | succ n ih =>
    rw [incrementTimes_succ, get_increment, if_pos rfl, toNat_succ, ih]
    omega

end

/-- After any operations a ledger tells of each message how often it was counted since it was last
removed, or the greatest count if that is less, and so does an increment. It has as many entries as
there are messages that were counted since. No message is affected by operations on others, and
further increments never lead to a lower count. -/
theorem counts_history (h : List Operation) :
    (∀ id, ((after h).get id).toNat = min (increments id h) 4294967295 ∧
      (after h).perform (.get id) = (some ((after h).get id), after h) ∧
      ∃ n, ((after h).perform (.increment id)).1 = some n ∧
        n.toNat = min (increments id (h ++ [.increment id])) 4294967295) ∧
    (∃ ids : Finset String, (∀ id, id ∈ ids ↔ 0 < increments id h) ∧
      (after h).size = ids.card ∧ ((after h).isEmpty = true ↔ ids.card = 0)) ∧
    (∀ op id, op.message ≠ id → (after (h ++ [op])).count? id = (after h).count? id) ∧
    ∀ id n, ((after (h ++ List.replicate n (.increment id))).get id).toNat =
      min (((after h).get id).toNat + n) 4294967295 := by
  refine ⟨fun id => ⟨toNat_get_after h id, rfl, _, rfl, ?_⟩, ?_, ?_, ?_⟩
  · have hafter := toNat_get_after (h ++ [.increment id]) id
    rwa [after_concat] at hafter
  · obtain ⟨ids, hids, hsize⟩ := Keyed.exists_keys (sorted_after h)
    refine ⟨ids, fun id => (hids id).trans (isSome_count?_after h id), hsize, ?_⟩
    rw [← hsize]
    unfold isEmpty
    rw [List.isEmpty_iff, List.length_eq_zero_iff]
  · intro op id hother
    have hremove : op ≠ .remove id := by
      rintro rfl
      exact hother rfl
    have hincrement : op ≠ .increment id := by
      rintro rfl
      exact hother rfl
    rw [after_concat, count?_perform, if_neg hremove, if_neg hincrement]
  · intro id n
    rw [after_increments]
    exact toNat_get_incrementTimes _ id n

/-- The count of a message is not affected by another, and stays at the greatest count. -/
theorem counts_saturate :
    let h : List Operation := [.increment "a", .increment "b", .increment "a", .remove "b"]
    (Operation.increment "b").message ≠ "a" ∧
      (after (h ++ [.increment "b"])).count? "a" = (after h).count? "a" ∧
      ((after h).get "a").toNat = 2 ∧
      ((after (h ++ List.replicate 4294967295 (.increment "a"))).get "a").toNat = 4294967295 := by
  intro h
  obtain ⟨counts, -, others, further⟩ := counts_history h
  have hother : (Operation.increment "b").message ≠ "a" := by decide
  have hcount : ((after h).get "a").toNat = 2 := (counts "a").1.trans (by decide)
  refine ⟨hother, others (.increment "b") "a" hother, hcount, ?_⟩
  rw [further, hcount]
  decide

end Courier.Ledger
