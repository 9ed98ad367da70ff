import Courier.Proofs.Ledger.Accounting
import Courier.Proofs.Session.Pending
import Mathlib.Algebra.Order.Group.Multiset

/-! How often messages are handed over. The messages that share a count pay for it together: each of
them has one hand-over for each retry its count may get to, and one more. -/
namespace Courier

/-- A delivery in this stage waits for its handler. -/
def Stage.isHandling : Stage → Bool
  | .handling _ _ => true
  | .delayed => false

namespace Session

/-- How many of the messages `P` are under way or to be handed over again. -/
def load (s : Session) (P : Nat × Message → Bool) : Nat := s.pending.countP P

/-- How many of the messages `P` wait for their handlers. -/
def busy (s : Session) (P : Nat × Message → Bool) : Nat :=
  s.tasks.countP fun t => t.stage.isHandling && P (t.stream, t.delivery.message)

section
variable {s s' : Session} (P : Nat × Message → Bool)

theorem load_eq (s : Session) : s.load P =
    (s.tasks.countP fun t => P (t.stream, t.delivery.message)) +
      s.broker.returned.countP fun p => P (p.stream, p.message) := by
  unfold load pending
  rw [List.countP_append, List.countP_map, List.countP_map]
  rfl

theorem busy_le_load (s : Session) : s.busy P ≤ s.load P := by
  rw [load_eq]
  refine Nat.le_trans (List.countP_mono_left fun t _ ht => ?_) (Nat.le_add_right _ _)
  simp only [Bool.and_eq_true] at ht
  exact ht.2

end

section
variable {s s' : Session} (P : Nat × Message → Bool)

/-- A delivery that is taken out is counted no more. -/
theorem Sound.countP_dequeue (hs : s.Sound) {t : Task} (ht : t ∈ s.tasks) (Q : Task → Bool) :
    (s.dequeue t).tasks.countP Q + (if Q t then 1 else 0) = s.tasks.countP Q := by
  have herase : (s.dequeue t).tasks = s.tasks.erase t := by
    rw [(List.Nodup.of_map _ hs.serials).erase_eq_filter]
    refine List.filter_congr fun t' ht' => ?_
    by_cases he : t' = t
    · simp [he]
    · have hne : t'.serial ≠ t.serial := fun e => he (hs.eq_of_serial ht ht' e)
      simp [he, hne]
  rw [herase, (List.perm_cons_erase ht).countP_eq, List.countP_cons]

theorem arrive_load (sub : Subscription) (n : Nat) (m : Message) (tag : Option Nat) :
    (s.arrive sub n m tag).load P =
        s.load P + (if (sub.idOf? m).isSome && P (n, m) then 1 else 0) ∧
      (s.arrive sub n m tag).busy P =
        s.busy P + (if (sub.idOf? m).isSome && P (n, m) then 1 else 0) := by
  rw [load_eq, load_eq, (arrive_broker s sub n m tag).2]
  unfold busy
  rcases arrive_tasks s sub n m tag with ⟨ht, hid⟩ | ⟨t, id, answer, ht, hid, -, hn, hd, hst⟩
  · rw [ht, hid]
    exact ⟨rfl, rfl⟩
  · have hm : t.delivery.message = m := by rw [hd]; rfl
    rw [ht, hid, List.countP_append, List.countP_append, List.countP_singleton,
      List.countP_singleton, hn, hm, hst]
    simp only [Option.isSome_some, Stage.isHandling, Bool.true_and]
    exact ⟨by omega, trivial⟩

theorem takeReturned_load {p : Parcel} (hp : p ∈ s.broker.returned) :
    (s.takeReturned p).load P + (if P (p.stream, p.message) then 1 else 0) = s.load P ∧
      (s.takeReturned p).busy P = s.busy P := by
  refine ⟨?_, rfl⟩
  rw [load_eq, load_eq, (List.perm_cons_erase hp).countP_eq, List.countP_cons]
  exact Nat.add_assoc _ _ _

theorem conclude_load (hs : s.Sound) (sub : Subscription) {t : Task} {id : String}
    {answer : Answer} (ht : t ∈ s.tasks) (hstage : t.stage = .handling id answer) :
    (s.conclude sub t id answer).2.load P +
        (if P (t.stream, t.delivery.message) && s.verdict sub id answer != .requeued then 1
          else 0) = s.load P ∧
      (s.conclude sub t id answer).2.busy P +
        (if P (t.stream, t.delivery.message) then 1 else 0) = s.busy P := by
  have he := (conclude_effect s sub t id answer).2.tasks
  have hload := hs.countP_dequeue ht fun t => P (t.stream, t.delivery.message)
  have hbusy := hs.countP_dequeue ht fun t =>
    t.stage.isHandling && P (t.stream, t.delivery.message)
  have hdequeue : (s.tasks.filter fun t' => t'.serial ≠ t.serial) = (s.dequeue t).tasks := rfl
  have hhandling : t.stage.isHandling = true := by rw [hstage]; rfl
  rw [hdequeue] at he
  rw [hhandling, Bool.true_and] at hbusy
  rw [load_eq, load_eq, conclude_returned]
  unfold busy
  by_cases hr : s.verdict sub id answer = .requeued
  · have hd : (s.delayedTask sub t).stage.isHandling = false := rfl
    rw [if_pos hr] at he
    rw [he, hr, List.countP_append, List.countP_append, List.countP_singleton,
      List.countP_singleton, hd]
    change _ + (if P (t.stream, t.delivery.message) then 1 else 0) + _ + _ = _ ∧ _
    simp only [bne_self_eq_false, Bool.and_false, Bool.false_and, Bool.false_eq_true, if_false]
    omega
  · have hne : (s.verdict sub id answer != .requeued) = true := by simp [hr]
    rw [if_neg hr, List.append_nil] at he
    rw [he, hne, Bool.and_true]
    omega

end

/-- Under the tag of a delivery under way the broker has nothing but its message in flight. -/
def Faithful (s : Session) : Prop :=
  ∀ t ∈ s.tasks, ∀ p, s.broker.parcel? t.delivery.tag = some p →
    p.stream = t.stream ∧ p.message = t.delivery.message

section
variable {s : Session} (P : Nat × Message → Bool)

/-- A message that is given back is to be handed over again, or it is gone. -/
theorem giveBack_load (hs : s.Sound) (hf : s.Faithful) (sub : Subscription) {t : Task}
    (ht : t ∈ s.tasks) (hstage : t.stage = .delayed) :
    (((s.dequeue t).giveBack sub t).load P = s.load P ∨
        ((s.dequeue t).giveBack sub t).load P +
          (if P (t.stream, t.delivery.message) then 1 else 0) = s.load P) ∧
      ((s.dequeue t).giveBack sub t).busy P = s.busy P := by
  have he := giveBack_effect s sub t
  have hload := hs.countP_dequeue ht fun t => P (t.stream, t.delivery.message)
  have hbusy := hs.countP_dequeue ht fun t =>
    t.stage.isHandling && P (t.stream, t.delivery.message)
  have htasks : ((s.dequeue t).giveBack sub t).tasks = (s.dequeue t).tasks := he.tasks
  have hdelayed : t.stage.isHandling = false := by rw [hstage]; rfl
  rw [hdelayed, Bool.false_and, if_neg Bool.false_ne_true, Nat.add_zero] at hbusy
  rw [load_eq, load_eq]
  unfold busy
  rw [htasks, he.broker]
  refine ⟨?_, hbusy⟩
  rcases s.broker.call_nack_returned_cases t.delivery.tag with hr | ⟨p, hp, hr⟩
  · change _ + (s.broker.call (.nack t.delivery.tag false true)).2.returned.countP _ = _ ∨
      _ + (s.broker.call (.nack t.delivery.tag false true)).2.returned.countP _ + _ = _
    rw [hr]
    omega
  · obtain ⟨hn, hm⟩ := hf t ht p hp
    change _ + (s.broker.call (.nack t.delivery.tag false true)).2.returned.countP _ = _ ∨
      _ + (s.broker.call (.nack t.delivery.tag false true)).2.returned.countP _ + _ = _
    rw [hr, List.countP_append, List.countP_singleton, hn, hm]
    omega

end

/-- What a message is counted under, if its stream has a subscription: a ledger, and its id if it
can be read. -/
def countedUnder (subs : List Subscription) (p : Nat × Message) : Option (Nat × Option String) :=
  subs[p.1]?.map fun sub => (sub.ledger, sub.idOf? p.2)

def isUnder (subs : List Subscription) (key : Option (Nat × Option String)) (p : Nat × Message) :
    Bool := decide (countedUnder subs p = key)

/-- How many of `limit` retries have been made under a count. -/
def spent (s : Session) (limit : Nat) : Option (Nat × Option String) → Nat
  | some (ledger, some id) => min ((s.ledger ledger).get id).toNat limit
  | _ => 0

/-- What is known of the messages under a count after the deeds `h`: each hand-over is paid for, by
the messages that were pending and those that have arrived, which bring `limit + 1` each. What is
pending still has as much, but for the retries made under the count, and for the hand-overs whose
answers are awaited. -/
structure Paid (subs : List Subscription) (limit : Nat) (key : Option (Nat × Option String))
    (s₀ : Session) (h : List Record) (s : Session) : Prop where
  all : (handOvers h).countP (isUnder subs key) + s₀.busy (isUnder subs key) ≤
    (limit + 1) * (s₀.load (isUnder subs key) +
      (arrivedIn h).countP (isUnder subs key))
  rest : (handOvers h).countP (isUnder subs key) +
      s₀.busy (isUnder subs key) +
        (limit + 1) * s.load (isUnder subs key) ≤
      (limit + 1) * (s₀.load (isUnder subs key) +
        (arrivedIn h).countP (isUnder subs key)) +
      s.spent limit key + s.busy (isUnder subs key)

section
variable {subs : List Subscription} {limit : Nat} {key : Option (Nat × Option String)}
  {s₀ s s' : Session} {h : List Record} {d : Deed} {entries : List Entry}

theorem spent_le (s : Session) (limit : Nat) (key : Option (Nat × Option String)) :
    s.spent limit key ≤ limit := by
  unfold spent
  split
  · exact Nat.min_le_right _ _
  · exact Nat.zero_le _

theorem countedUnder_of {n : Nat} {sub : Subscription} (hsubs : s.subscriptions <+: subs)
    (hsub : s.subscriptions[n]? = some sub) (m : Message) :
    countedUnder subs (n, m) = some (sub.ledger, sub.idOf? m) := by
  unfold countedUnder
  rw [ getElem?_of_prefix hsubs hsub]
  rfl

theorem Paid.start : Paid subs limit key s [] s := by
  have hle := busy_le_load (isUnder subs key) s
  have hmul : s.load (isUnder subs key) ≤
      (limit + 1) * s.load (isUnder subs key) :=
    Nat.le_mul_of_pos_left _ (Nat.succ_pos _)
  refine ⟨?_, ?_⟩
  · change 0 + _ ≤ (limit + 1) * _
    rw [Nat.zero_add]
    exact Nat.le_trans hle hmul
  · change 0 + _ + (limit + 1) * s.load _ ≤ (limit + 1) * s.load _ + _ + _
    omega

/-- What one move does to the sums, if it brings `a` messages under the count and hands over `b`. -/
theorem Paid.step (paid : Paid subs limit key s₀ h s) {a b : Nat}
    (hb : (handOvers (h ++ [⟨d, entries⟩])).countP (isUnder subs key) =
      (handOvers h).countP (isUnder subs key) + b)
    (ha : (arrivedIn (h ++ [⟨d, entries⟩])).countP (isUnder subs key) =
      (arrivedIn h).countP (isUnder subs key) + a)
    (hrest : b + (limit + 1) * s'.load (isUnder subs key) + s.spent limit key +
        s.busy (isUnder subs key) ≤
      (limit + 1) * s.load (isUnder subs key) + (limit + 1) * a + s'.spent limit key +
        s'.busy (isUnder subs key))
    (hall : b ≤ a ∨ s'.spent limit key = 0 ∨ s'.load (isUnder subs key) ≠ 0) :
    Paid subs limit key s₀ (h ++ [⟨d, entries⟩]) s' := by
  obtain ⟨hall₀, hrest₀⟩ := paid
  have hbusy := busy_le_load (isUnder subs key) s'
  have hspent := s'.spent_le limit key
  rw [Nat.mul_add] at hall₀ hrest₀
  have next : (handOvers h).countP (isUnder subs key) + b +
      s₀.busy (isUnder subs key) +
        (limit + 1) * s'.load (isUnder subs key) ≤
      (limit + 1) * (s₀.load (isUnder subs key) +
        ((arrivedIn h).countP (isUnder subs key) + a)) +
      s'.spent limit key + s'.busy (isUnder subs key) := by
    rw [Nat.mul_add, Nat.mul_add]
    omega
  refine ⟨?_, by rw [hb, ha]; exact next⟩
  rw [hb, ha]
  rcases Nat.eq_zero_or_pos (s'.load (isUnder subs key)) with hz | hpos
  · -- Nothing is pending that could still pay for hand-overs.
    rcases hall with hle | h0 | hne
    · have hmul : b ≤ (limit + 1) * a :=
        Nat.le_trans hle (Nat.le_mul_of_pos_left _ (Nat.succ_pos _))
      rw [Nat.mul_add, Nat.mul_add]
      omega
    · rw [hz, Nat.mul_zero] at next
      omega
    · exact absurd hz hne
  · -- One pending message alone has paid for more than has been spent.
    obtain ⟨l, hl⟩ := Nat.exists_eq_add_of_lt hpos
    rw [Nat.zero_add] at hl
    rw [hl, Nat.mul_add, Nat.mul_one, Nat.add_mul, Nat.one_mul] at next
    rw [hl] at hbusy
    omega

theorem spent_of_ledgers (hl : s'.ledgers = s.ledgers) :
    s'.spent limit key = s.spent limit key := by
  unfold spent ledger
  rw [hl]

theorem conclude_ledger_of_ne (sub : Subscription) (t : Task) (id : String) (answer : Answer)
    {n : Nat} (hn : sub.ledger ≠ n) : (s.conclude sub t id answer).2.ledger n = s.ledger n := by
  rw [ledger_eq_of_ledgers_eq (s := s) (conclude_effect s sub t id answer).2.ledgers]
  exact ledger_set_of_ne s _ hn

section
variable (limit : Nat) {sub : Subscription} (t : Task) {id : String} (answer : Answer)
  (hl : sub.ledger < s.ledgers.length)
include hl

/-- A conclusion changes no other count. -/
theorem spent_conclude_other (hkey : key ≠ some (sub.ledger, some id)) :
    (s.conclude sub t id answer).2.spent limit key = s.spent limit key := by
  unfold spent
  split
  · next n id' =>
    by_cases hn : sub.ledger = n
    · have hid : ¬ (sub.ledger = n ∧ id = id') := fun e => hkey (by rw [e.1, e.2])
      have hc := conclude_count? s sub t id answer id' (hn ▸ hl)
      rw [if_neg hid] at hc
      unfold Ledger.get
      rw [hc]
    · rw [conclude_ledger_of_ne sub t id answer hn]
  · rfl

theorem get_conclude : (((s.conclude sub t id answer).2.ledger sub.ledger).get id) =
    ((s.verdict sub id answer).entered ((s.ledger sub.ledger).count? id)).getD 0 := by
  have hc := conclude_count? s sub t id answer id hl
  rw [if_pos ⟨rfl, rfl⟩, (conclude_effect s sub t id answer).1] at hc
  exact congrArg (·.getD 0) hc

theorem spent_conclude_requeued (hr : s.verdict sub id answer = .requeued)
    (hlimit : sub.consumer.contract.maxRetry.toNat ≤ limit) :
    (s.conclude sub t id answer).2.spent limit (some (sub.ledger, some id)) =
      s.spent limit (some (sub.ledger, some id)) + 1 := by
  have hlt := (Consumer.verdict_requeued hr).2.2
  have hlt' : ((s.ledger sub.ledger).get id).toNat < sub.consumer.contract.maxRetry.toNat := hlt
  have hsucc := Ledger.toNat_succ_of_lt hlt
  change min ((_ : UInt32).toNat) limit = min _ limit + 1
  rw [get_conclude t answer hl, hr]
  change min (Ledger.succ ((s.ledger sub.ledger).get id)).toNat limit = _
  rw [hsucc]
  omega

theorem spent_conclude_lost (hr : s.verdict sub id answer = .lost) :
    (s.conclude sub t id answer).2.spent limit (some (sub.ledger, some id)) =
      s.spent limit (some (sub.ledger, some id)) := by
  change min ((_ : UInt32).toNat) limit = min _ limit
  rw [get_conclude t answer hl, hr]
  rfl

end

theorem Paid.conclude (paid : Paid subs limit key s₀ h s) (hs : s.Sound) {sub : Subscription}
    {t : Task} {id : String} {answer : Answer} {r : Resolution} (ht : t ∈ s.tasks)
    (hsub : s.subscriptions[t.stream]? = some sub) (hstage : t.stage = .handling id answer)
    (hsubs : s.subscriptions <+: subs) (hl : sub.ledger < s.ledgers.length)
    (hlimit : sub.consumer.contract.maxRetry.toNat ≤ limit) :
    Paid subs limit key s₀
      (h ++ [⟨.concluded sub t.stream t.delivery id answer r, entries⟩])
      (s.conclude sub t id answer).2 := by
  have hunder := countedUnder_of hsubs hsub t.delivery.message
  rw [hs.idOf?_of_handling ht hsub hstage] at hunder
  obtain ⟨hload, hbusy⟩ := conclude_load (isUnder subs key) hs sub ht hstage
  refine paid.step (a := 0) (b := 0) ?_ ?_ ?_ (Or.inl (Nat.le_refl 0))
  · rw [handOvers_append]
    exact congrArg _ (List.append_nil _)
  · rw [arrivedIn_append]
    exact congrArg _ (List.append_nil _)
  by_cases hkey : key = some (sub.ledger, some id)
  · subst hkey
    have hown :
        isUnder subs (some (sub.ledger, some id)) (t.stream, t.delivery.message) = true := by
      unfold isUnder
      rw [hunder]
      exact decide_eq_true rfl
    rw [hown] at hload hbusy
    cases hr : s.verdict sub id answer with
    | requeued =>
      have hspent := spent_conclude_requeued limit t answer hl hr hlimit
      rw [hr] at hload
      change _ + 0 = _ at hload
      change _ + 1 = _ at hbusy
      rw [Nat.add_zero] at hload
      rw [hspent, hload]
      omega
    | lost =>
      have hspent := spent_conclude_lost limit t answer hl hr
      rw [hr] at hload
      change _ + 1 = _ at hload
      change _ + 1 = _ at hbusy
      have hmul := congrArg ((limit + 1) * ·) hload
      rw [Nat.mul_add, Nat.mul_one] at hmul
      rw [hspent]
      omega
    | acked | exhausted | poisoned =>
      have hle := s.spent_le limit (some (sub.ledger, some id))
      rw [hr] at hload
      change _ + 1 = _ at hload
      change _ + 1 = _ at hbusy
      have hmul := congrArg ((limit + 1) * ·) hload
      rw [Nat.mul_add, Nat.mul_one] at hmul
      omega
  · have hother : isUnder subs key (t.stream, t.delivery.message) = false := by
      unfold isUnder
      rw [hunder]
      exact decide_eq_false fun e => hkey e.symm
    have hspent := spent_conclude_other limit t answer hl hkey
    rw [hother] at hload hbusy
    change _ + 0 = _ at hload
    change _ + 0 = _ at hbusy
    rw [Nat.add_zero] at hload
    rw [hspent, hload]
    omega

/-- Moves that bring and hand over nothing, and leave the counts alone. -/
theorem Paid.still (paid : Paid subs limit key s₀ h s) (hb : d.handed? = none)
    (ha : d.arrived? = none) (hledgers : s'.ledgers = s.ledgers)
    (hload : s'.load (isUnder subs key) ≤ s.load (isUnder subs key))
    (hbusy : s'.busy (isUnder subs key) = s.busy (isUnder subs key)) :
    Paid subs limit key s₀ (h ++ [⟨d, entries⟩]) s' := by
  refine paid.step (a := 0) (b := 0) ?_ ?_ ?_ (Or.inl (Nat.le_refl 0))
  · rw [handOvers_append, hb]
    exact congrArg _ (List.append_nil _)
  · rw [arrivedIn_append, ha]
    exact congrArg _ (List.append_nil _)
  · have hmul := Nat.mul_le_mul_left (limit + 1) hload
    rw [spent_of_ledgers hledgers, hbusy]
    omega

/-- A message is handed over. Before that it has arrived, or it has been taken from those that were
returned. -/
theorem Paid.handOver (paid : Paid subs limit key s₀ h s) {s₁ : Session} {sub : Subscription}
    {n : Nat} {message : Message} (tag : Option Nat)
    (hunder : countedUnder subs (n, message) = some (sub.ledger, sub.idOf? message))
    (hledgers : s₁.ledgers = s.ledgers)
    (hbusy : s₁.busy (isUnder subs key) = s.busy (isUnder subs key)) {a : Nat}
    (hload : s₁.load (isUnder subs key) + (if isUnder subs key (n, message) then 1 else 0) =
      s.load (isUnder subs key) + a)
    (ha : (arrivedIn (h ++ [⟨d, entries⟩])).countP (isUnder subs key) =
      (arrivedIn h).countP (isUnder subs key) + a)
    (hb : d.handed? = some (n, message)) :
    Paid subs limit key s₀ (h ++ [⟨d, entries⟩]) (s₁.arrive sub n message tag) := by
  obtain ⟨hload', hbusy'⟩ := arrive_load (s := s₁) (isUnder subs key) sub n message tag
  have hspent : (s₁.arrive sub n message tag).spent limit key = s.spent limit key :=
    spent_of_ledgers ((arrive_ledgers _ _ _ _ _).trans hledgers)
  have hb' : (handOvers (h ++ [⟨d, entries⟩])).countP (isUnder subs key) =
      (handOvers h).countP (isUnder subs key) + if isUnder subs key (n, message) then 1 else 0 := by
    rw [handOvers_append, hb]
    exact (List.countP_append ..).trans (congrArg _ List.countP_singleton)
  have hmul := congrArg ((limit + 1) * ·) hload
  rw [Nat.mul_add, Nat.mul_add] at hmul
  cases hu : isUnder subs key (n, message) with
  | false =>
    rw [hu, Bool.and_false, if_neg Bool.false_ne_true, Nat.add_zero] at hload' hbusy'
    rw [hu, if_neg Bool.false_ne_true] at hmul hb'
    refine paid.step hb' ha ?_ (Or.inl (Nat.zero_le a))
    rw [hload', hbusy', hspent, hbusy]
    omega
  | true =>
    rw [hu, if_pos rfl] at hmul hb'
    rw [hu, Bool.and_true] at hload' hbusy'
    cases hid : sub.idOf? message with
    | none =>
      -- The count of what cannot be read is none of the ledger's.
      have hfree : (s₁.arrive sub n message tag).spent limit key = 0 := by
        rw [hid] at hunder
        rw [← of_decide_eq_true hu, hunder]
        rfl
      rw [hid, Option.isSome_none, if_neg Bool.false_ne_true, Nat.add_zero] at hload' hbusy'
      refine paid.step hb' ha ?_ (Or.inr (Or.inl hfree))
      rw [hload', hbusy', hspent, hbusy]
      omega
    | some id =>
      rw [hid, Option.isSome_some, if_pos rfl] at hload' hbusy'
      rw [hu, if_pos rfl] at hload
      refine paid.step hb' ha ?_ (Or.inr (Or.inr (by omega)))
      rw [hload', hload, hbusy', hspent, hbusy, Nat.mul_add]
      omega

theorem Paid.move (paid : Paid subs limit key s₀ h s) (m : Move s d s') (hs : s.Sound)
    (hf : s.Faithful) (hd : ∀ ledger id, d ≠ .counted ledger id) (hsubs : s'.subscriptions <+: subs)
    (backed : ∀ sub ∈ subs, sub.ledger < s.ledgers.length ∧
      sub.consumer.contract.maxRetry.toNat ≤ limit) :
    Paid subs limit key s₀ (h ++ [⟨d, entries⟩]) s' := by
  have hsubs' := m.subscriptions_prefix.trans hsubs
  cases m with
  | @arrive sub n message tag hsub hopen =>
    refine paid.handOver tag (countedUnder_of hsubs' hsub message) rfl rfl rfl ?_ rfl
    rw [arrivedIn_append]
    exact (List.countP_append ..).trans (congrArg _ List.countP_singleton)
  | @again sub p hp hsub hopen =>
    obtain ⟨hload, hbusy⟩ := takeReturned_load (isUnder subs key) hp
    refine paid.handOver (a := 0) none (countedUnder_of hsubs' hsub p.message) rfl hbusy hload ?_
      rfl
    rw [arrivedIn_append]
    exact congrArg _ (List.append_nil _)
  | @conclude sub t id answer ht hsub hstage =>
    obtain ⟨hl, hlimit⟩ := backed sub (hsubs'.subset (List.mem_of_getElem? hsub))
    exact paid.conclude hs ht hsub hstage hsubs' hl hlimit
  | @giveBack sub t ht hsub hstage =>
    obtain ⟨hload, hbusy⟩ := giveBack_load (isUnder subs key) hs hf sub ht hstage
    refine paid.still rfl rfl (giveBack_effect s sub t).ledgers ?_ hbusy
    rcases hload with hload | hload <;> omega
  | @lose p hp hclosed =>
    obtain ⟨hload, hbusy⟩ := takeReturned_load (isUnder subs key) hp
    exact paid.still rfl rfl rfl (by omega) hbusy
  | close n =>
    refine paid.still rfl rfl (close_ledgers s n) (Nat.le_of_eq ?_) ?_
    · rw [load_eq, load_eq, close_tasks, close_returned]
    · unfold busy
      rw [close_tasks]
  | count ledger id => exact absurd rfl (hd ledger id)
  | aside ha =>
    refine paid.still rfl rfl ha.ledgers (Nat.le_of_eq ?_) ?_
    · rw [load_eq, load_eq, ha.tasks, ha.returned]
    · unfold busy
      rw [ha.tasks]

/-- The messages under one count are handed over no more than `limit + 1` times each on average. -/
theorem Run.paid (run : Run (fun s d => s.Faithful ∧ ∀ ledger id, d ≠ .counted ledger id) s h s')
    (key : Option (Nat × Option String)) (hs : s.Sound) (hsubs : s'.subscriptions <+: subs)
    (backed : ∀ sub ∈ subs, sub.ledger < s.ledgers.length ∧
      sub.consumer.contract.maxRetry.toNat ≤ limit) : Paid subs limit key s h s' := by
  induction run with
  | start => exact .start
  | next run m ok ih =>
    refine (ih (m.subscriptions_prefix.trans hsubs)).move m (run.sound hs) ok.1 ok.2 hsubs ?_
    rw [run.ledgers_length]
    exact backed

end

theorem length_le_of_countP_le {α κ : Type} [DecidableEq κ] (key : α → κ) {c : Nat} {as bs : List α}
    (h : ∀ k, as.countP (fun a => decide (key a = k)) ≤ c * bs.countP fun a => decide (key a = k)) :
    as.length ≤ c * bs.length := by
  have hle : (as.map key : Multiset κ) ≤ c • (bs.map key : Multiset κ) := by
    refine Multiset.le_iff_count.mpr fun k => ?_
    rw [Multiset.count_nsmul, Multiset.coe_count, Multiset.coe_count, List.count_eq_countP,
      List.count_eq_countP, List.countP_map, List.countP_map]
    exact h k
  have hcard := Multiset.card_le_card hle
  rw [Multiset.card_nsmul, Multiset.coe_card, Multiset.coe_card, List.length_map,
    List.length_map] at hcard
  exact hcard

/-- The messages that wait for their handlers, with their streams. -/
def awaited (s : Session) : List (Nat × Message) :=
  (s.tasks.filter (·.stage.isHandling)).map fun t => (t.stream, t.delivery.message)

section
variable {s s' : Session} {h : List Record}

/-- The messages are handed over no more than `limit + 1` times each on average. Those whose answers
are awaited have been handed over once already. -/
theorem Run.handOvers_le
    (run : Run (fun s d => s.Faithful ∧ ∀ ledger id, d ≠ .counted ledger id) s h s') (limit : Nat)
    (hs : s.Sound) (backed : ∀ sub ∈ s'.subscriptions, sub.ledger < s.ledgers.length ∧
      sub.consumer.contract.maxRetry.toNat ≤ limit) :
    (handOvers h).length + (s.tasks.countP (·.stage.isHandling)) ≤
      (limit + 1) * (s.pending.length + (arrivedIn h).length) := by
  have busy : ∀ P, s.awaited.countP P = s.busy P := fun P => by
    unfold awaited Session.busy
    rw [List.countP_map, List.countP_filter]
    congr 1
    funext t
    exact Bool.and_comm _ _
  have hle : (handOvers h ++ s.awaited).length ≤ (limit + 1) * (s.pending ++ arrivedIn h).length :=
    length_le_of_countP_le (countedUnder s'.subscriptions) fun key => by
      have hpaid := (run.paid key hs List.prefix_rfl backed).all
      rw [List.countP_append, List.countP_append]
      rw [← busy] at hpaid
      exact hpaid
  unfold awaited at hle
  rw [List.length_append, List.length_append, List.length_map,
    ← List.countP_eq_length_filter] at hle
  exact hle

end
end Session
end Courier
