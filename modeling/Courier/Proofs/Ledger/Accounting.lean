import Courier.Proofs.Session.Move

/-! A ledger that only deliveries change counts the retries of each message since it last forgot it,
and no retry limit is exceeded. -/
namespace Courier

namespace Deed

/-- A failed attempt at a message, after which the message is to be sent back. -/
def sendsBack (ledger : Nat) (id : String) : Deed → Bool
  | .concluded sub _ _ id' _ r => sub.ledger = ledger ∧ id' = id ∧ r = .requeued
  | _ => false

/-- A resolution that makes the ledger forget a message. -/
def forgets (ledger : Nat) (id : String) : Deed → Bool
  | .concluded sub _ _ id' _ r =>
    sub.ledger = ledger ∧ id' = id ∧ (r = .acked ∨ r = .exhausted ∨ r = .poisoned)
  | _ => false

theorem entered_of_sendsBack {ledger : Nat} {id : String} {d : Deed}
    (h : d.sendsBack ledger id = true) (count : Option UInt32) :
    d.entered ledger id count = some (Ledger.succ (count.getD 0)) := by
  cases d with
  | concluded sub stream dl id' answer r =>
    obtain ⟨hl, hi, hr⟩ : sub.ledger = ledger ∧ id' = id ∧ r = .requeued := by
      simpa [sendsBack] using h
    simp [entered, hl, hi, hr, Resolution.entered]
  | _ => cases h

theorem entered_of_forgets {ledger : Nat} {id : String} {d : Deed}
    (h : d.forgets ledger id = true) (count : Option UInt32) :
    d.entered ledger id count = none := by
  cases d with
  | concluded sub stream dl id' answer r =>
    obtain ⟨hl, hi, hr⟩ : sub.ledger = ledger ∧ id' = id ∧
        (r = .acked ∨ r = .exhausted ∨ r = .poisoned) := by
      simpa [forgets] using h
    rcases hr with hr | hr | hr <;> simp [entered, hl, hi, hr, Resolution.entered]
  | _ => cases h

theorem entered_of_neither {ledger : Nat} {id : String} {d : Deed}
    (hs : d.sendsBack ledger id = false) (hf : d.forgets ledger id = false)
    (count : Option UInt32) : d.entered ledger id count = count := by
  cases d with
  | concluded sub stream dl id' answer r =>
    by_cases h : sub.ledger = ledger ∧ id' = id
    · have hr : r = .lost := by
        cases r <;> simp [sendsBack, forgets, h] at hs hf ⊢
      simp [entered, hr, Resolution.entered]
    · simp [entered, h]
  | _ => rfl

theorem forgets_of_sendsBack {ledger : Nat} {id : String} {d : Deed}
    (h : d.sendsBack ledger id = true) : d.forgets ledger id = false := by
  cases d with
  | concluded sub stream dl id' answer r =>
    obtain ⟨-, -, hr⟩ : sub.ledger = ledger ∧ id' = id ∧ r = .requeued := by
      simpa [sendsBack] using h
    simp [forgets, hr]
  | _ => rfl

end Deed

/-- How often a message has been sent back in all. -/
def retries (ledger : Nat) (id : String) (h : List Record) : Nat :=
  h.countP (·.deed.sendsBack ledger id)

/-- How often a message has been forgotten. -/
def forgettings (ledger : Nat) (id : String) (h : List Record) : Nat :=
  h.countP (·.deed.forgets ledger id)

theorem retries_append (ledger : Nat) (id : String) (h : List Record) (r : Record) :
    retries ledger id (h ++ [r]) =
      retries ledger id h + if r.deed.sendsBack ledger id then 1 else 0 := by
  simp [retries, List.countP_cons]

theorem forgettings_append (ledger : Nat) (id : String) (h : List Record) (r : Record) :
    forgettings ledger id (h ++ [r]) =
      forgettings ledger id h + if r.deed.forgets ledger id then 1 else 0 := by
  simp [forgettings, List.countP_cons]

/-- How often a message has been sent back since it was last forgotten. -/
def retriesSince (ledger : Nat) (id : String) (h : List Record) : Nat :=
  retries ledger id (h.reverse.takeWhile fun r => !r.deed.forgets ledger id)

theorem retriesSince_append (ledger : Nat) (id : String) (h : List Record) (r : Record) :
    retriesSince ledger id (h ++ [r]) =
      if r.deed.forgets ledger id then 0
      else retriesSince ledger id h + if r.deed.sendsBack ledger id then 1 else 0 := by
  unfold retriesSince retries
  rw [List.reverse_append, List.reverse_singleton, List.singleton_append, List.takeWhile_cons]
  cases hf : r.deed.forgets ledger id with
  | true => simp
  | false => simp [List.countP_cons]

namespace Session

theorem Move.sendsBack_lt {s s' : Session} {d : Deed} {ledger : Nat} {id : String}
    (m : Move s d s') (h : d.sendsBack ledger id = true) :
    ∃ sub ∈ s.subscriptions, sub.ledger = ledger ∧
      (s.ledger ledger).get id < sub.consumer.contract.maxRetry := by
  cases m with
  | @conclude sub t id' answer ht hsub hstage =>
    obtain ⟨hl, hi, hr⟩ : sub.ledger = ledger ∧ id' = id ∧ _ = Resolution.requeued := by
      simpa [Deed.sendsBack] using h
    subst hl hi
    rw [(conclude_effect s sub t id' answer).1] at hr
    exact ⟨sub, List.mem_of_getElem? hsub, rfl, (Consumer.verdict_requeued hr).2.2⟩
  | _ => cases h

/-- A ledger that counts the retries since it last forgot a message goes on to do so. -/
theorem Move.get_retriesSince {s s' : Session} {d : Deed} {ledger : Nat} {id : String}
    (m : Move s d s') (hl : ledger < s.ledgers.length) (hd : d ≠ .counted ledger id)
    {h : List Record} (hcount : ((s.ledger ledger).get id).toNat = retriesSince ledger id h)
    (entries : List Entry) :
    ((s'.ledger ledger).get id).toNat = retriesSince ledger id (h ++ [⟨d, entries⟩]) := by
  have hget : (s'.ledger ledger).get id =
      (d.entered ledger id ((s.ledger ledger).count? id)).getD 0 :=
    congrArg (·.getD 0) (m.count?_eq hl hd)
  rw [hget, retriesSince_append, ← hcount]
  cases hs : d.sendsBack ledger id with
  | true =>
    obtain ⟨sub, -, -, hlt⟩ := m.sendsBack_lt hs
    rw [Deed.entered_of_sendsBack hs, Deed.forgets_of_sendsBack hs]
    exact Ledger.toNat_succ_of_lt hlt
  | false =>
    cases hf : d.forgets ledger id with
    | true =>
      rw [Deed.entered_of_forgets hf]
      rfl
    | false =>
      rw [Deed.entered_of_neither hs hf]
      rfl

/-- What is known of a ledger after the deeds `h`, if no subscription allows more than `limit`
retries. -/
structure Accounted (ledger : Nat) (id : String) (limit : Nat) (h : List Record) (s : Session) :
    Prop where
  count : ((s.ledger ledger).get id).toNat = retriesSince ledger id h
  bounded : ((s.ledger ledger).get id).toNat ≤ limit
  total : retries ledger id h ≤
    limit * forgettings ledger id h + ((s.ledger ledger).get id).toNat

theorem Accounted.next {ledger : Nat} {id : String} {limit : Nat} {h : List Record}
    {s s' : Session} {d : Deed} {entries : List Entry} (acc : Accounted ledger id limit h s)
    (m : Move s d s') (hl : ledger < s.ledgers.length) (hd : d ≠ .counted ledger id)
    (hlimit : ∀ sub ∈ s.subscriptions, sub.ledger = ledger →
      sub.consumer.contract.maxRetry.toNat ≤ limit) :
    Accounted ledger id limit (h ++ [⟨d, entries⟩]) s' := by
  obtain ⟨hcount, hbound, htotal⟩ := acc
  have hnext := m.get_retriesSince hl hd hcount entries
  have hold := retriesSince_append ledger id h ⟨d, entries⟩
  rw [← hnext, ← hcount] at hold
  suffices ((s'.ledger ledger).get id).toNat ≤ limit ∧
      retries ledger id (h ++ [⟨d, entries⟩]) ≤
        limit * forgettings ledger id (h ++ [⟨d, entries⟩]) + ((s'.ledger ledger).get id).toNat from
    ⟨hnext, this.1, this.2⟩
  rw [retries_append, forgettings_append]
  cases hs : d.sendsBack ledger id with
  | true =>
    have hf := Deed.forgets_of_sendsBack hs
    obtain ⟨sub, hsub, hsl, hlt⟩ := m.sendsBack_lt hs
    have hlt' : ((s.ledger ledger).get id).toNat < sub.consumer.contract.maxRetry.toNat := hlt
    have hle := hlimit sub hsub hsl
    simp only [hs, hf, if_true, Bool.false_eq_true, if_false, Nat.add_zero] at hold ⊢
    omega
  | false =>
    cases hf : d.forgets ledger id with
    | true =>
      simp only [hs, hf, if_true, Bool.false_eq_true, if_false, Nat.add_zero, Nat.mul_add,
        Nat.mul_one] at hold ⊢
      omega
    | false =>
      simp only [hs, hf, Bool.false_eq_true, if_false, Nat.add_zero] at hold ⊢
      omega

theorem Run.ledgers_length {allowed : Session → Deed → Prop} {s s' : Session} {h : List Record}
    (run : Run allowed s h s') : s'.ledgers.length = s.ledgers.length :=
  run.keeps (P := fun t => t.ledgers.length = s.ledgers.length)
    (fun ih _ m => m.ledgers_length.trans ih) rfl

/-- A ledger is left to the deliveries. -/
def Undisturbed (ledger : Nat) (_ : Session) (d : Deed) : Prop := ∀ id, d ≠ .counted ledger id

/-- The ledger counts the retries since it last forgot a message, never more than the highest retry
limit, so that the retries in all are bounded by the limit and the number of forgettings. -/
theorem ledger_counts_retries {s s' : Session} {h : List Record} {ledger : Nat}
    (hl : ledger < s.ledgers.length) (empty : (s.ledger ledger).isEmpty = true)
    (run : Run (Undisturbed ledger) s h s') (limit : Nat)
    (hlimit : ∀ sub ∈ s'.subscriptions, sub.ledger = ledger →
      sub.consumer.contract.maxRetry.toNat ≤ limit) (id : String) :
    ((s'.ledger ledger).get id).toNat = retriesSince ledger id h ∧
      ((s'.ledger ledger).get id).toNat ≤ limit ∧
      retries ledger id h ≤
        limit * forgettings ledger id h + ((s'.ledger ledger).get id).toNat := by
  suffices acc : Accounted ledger id limit h s' from ⟨acc.count, acc.bounded, acc.total⟩
  induction run with
  | start =>
    have hget : (s.ledger ledger).get id = 0 := by
      unfold Ledger.get
      rw [Ledger.count?_of_isEmpty empty]
      rfl
    exact ⟨by rw [hget]; rfl, by rw [hget]; exact Nat.zero_le _, Nat.zero_le _⟩
  | next run m ok ih =>
    have hlimit' := fun sub hsub => hlimit sub (m.subscriptions_prefix.subset hsub)
    exact (ih hlimit').next m (by rw [run.ledgers_length]; exact hl) (ok id) hlimit'

set_option maxRecDepth 100000 in
theorem ledger_counts_one_retry : ∃ s h,
    Run (Undisturbed 0) (Trial.session [Trial.subscription 1 2]) h s ∧
    (s.ledger 0).get "i" = 1 ∧ ((s.ledger 0).get "i").toNat = retriesSince 0 "i" h ∧
    ((s.ledger 0).get "i").toNat ≤ 2 ∧
    retries 0 "i" h ≤ 2 * forgettings 0 "i" h + ((s.ledger 0).get "i").toNat := by
  let sub := Trial.subscription 1 2
  have arrived := @Move.arrive (Trial.session [sub]) sub 0 Trial.message none rfl (by decide)
  have concluded := Move.conclude (t := Trial.task 1 0 Trial.failure) (by decide +kernel)
    (arrived.known rfl) rfl
  have run : Run (Undisturbed 0) _ _ _ :=
    (Run.start.next arrived fun _ => Deed.noConfusion).next concluded fun _ => Deed.noConfusion
  refine ⟨_, _, run, by decide +kernel, ledger_counts_retries (by decide) rfl run 2 ?_ "i"⟩
  rw [(conclude_effect ..).2.subscriptions, arrive_subscriptions]
  intro sub hsub _
  rw [List.mem_singleton.mp hsub]
  decide

end Session
end Courier
