import Courier.Proofs.Session.Move
import Mathlib.Data.List.Nodup

/-! What holds of every session that is built up by moves: deliveries have numbers of their own and
belong to subscriptions, which know the ids under which they are handled. -/
namespace Courier.Session

structure Sound (s : Session) : Prop where
  serials : (s.tasks.map Task.serial).Nodup
  numbered : ∀ t ∈ s.tasks, t.serial ≤ s.broker.handedOver
  attended : ∀ t ∈ s.tasks, ∃ sub, s.subscriptions[t.stream]? = some sub ∧
    ∃ id, sub.idOf? t.delivery.message = some id ∧
      ∀ id' answer, t.stage = .handling id' answer → id' = id
  inFlight : ∀ p ∈ s.broker.inFlight, p.stream < s.subscriptions.length
  returned : ∀ p ∈ s.broker.returned, p.stream < s.subscriptions.length
  matched : s.subscriptions.length = s.broker.streams.length

/-- A session in which nothing has been handed over yet. -/
structure Fresh (s : Session) : Prop where
  tasks : s.tasks = []
  inFlight : s.broker.inFlight = []
  returned : s.broker.returned = []
  matched : s.subscriptions.length = s.broker.streams.length

theorem Fresh.sound {s : Session} (h : s.Fresh) : s.Sound where
  serials := by rw [h.tasks]; exact List.nodup_nil
  numbered := by rw [h.tasks]; exact fun t ht => absurd ht List.not_mem_nil
  attended := by rw [h.tasks]; exact fun t ht => absurd ht List.not_mem_nil
  inFlight := by rw [h.inFlight]; exact fun p hp => absurd hp List.not_mem_nil
  returned := by rw [h.returned]; exact fun p hp => absurd hp List.not_mem_nil
  matched := h.matched

theorem dequeue_tasks_subset (s : Session) (t : Task) : (s.dequeue t).tasks ⊆ s.tasks :=
  List.filter_sublist.subset

theorem serial_notMem_dequeue (s : Session) (t : Task) :
    t.serial ∉ (s.dequeue t).tasks.map Task.serial := by
  intro hm
  obtain ⟨t', ht', he⟩ := List.mem_map.mp hm
  have := (List.mem_filter.mp ht').2
  simp [he] at this

theorem mem_dequeue {s : Session} {t t' : Task} (ht' : t' ∈ s.tasks) (hne : t'.serial ≠ t.serial) :
    t' ∈ (s.dequeue t).tasks := by
  refine List.mem_filter.mpr ⟨ht', ?_⟩
  simpa using hne

theorem Sound.eq_of_serial {s : Session} (h : s.Sound) {t t' : Task} (ht : t ∈ s.tasks)
    (ht' : t' ∈ s.tasks) (he : t'.serial = t.serial) : t' = t :=
  List.inj_on_of_nodup_map h.serials ht' ht he

theorem isOpen_lt {s : Session} {stream : Nat} (h : s.broker.isOpen stream = true) :
    stream < s.broker.streams.length := by
  by_contra hlt
  unfold Broker.isOpen at h
  rw [List.getElem?_eq_none (by omega)] at h
  cases h

section
variable (s : Session) (sub : Subscription) (stream : Nat) (message : Message) (tag : Option Nat)

/-- What an arrival does, whether or not the message can be read. -/
theorem arrive_broker : Broker.Apart (s.handed stream message tag).tag
      (s.handing stream message tag).broker (s.arrive sub stream message tag).broker ∧
    (s.arrive sub stream message tag).broker.returned = s.broker.returned := by
  cases h : Envelope.decode sub.consumer.contract.payloadType message.body with
  | error e =>
    rw [(arrive_error s sub stream message tag h).broker, Consumer.returned_ackOf?]
    exact ⟨Consumer.apart_ackOf? _ _ _ _, rfl⟩
  | ok e =>
    rw [(arrive_ok s sub stream message tag h).broker]
    exact ⟨.refl _ _, rfl⟩

theorem arrive_tasks :
    (s.arrive sub stream message tag).tasks = s.tasks ∧ sub.idOf? message = none ∨
      ∃ t id answer, (s.arrive sub stream message tag).tasks = s.tasks ++ [t] ∧
        sub.idOf? message = some id ∧ t.serial = s.broker.handedOver + 1 ∧ t.stream = stream ∧
        t.delivery = s.handed stream message tag ∧ t.stage = .handling id answer := by
  unfold Subscription.idOf?
  cases h : Envelope.decode sub.consumer.contract.payloadType message.body with
  | error e => exact Or.inl ⟨(arrive_error s sub stream message tag h).tasks, rfl⟩
  | ok e =>
    exact Or.inr ⟨_, _, _, (arrive_ok s sub stream message tag h).tasks, rfl, rfl, rfl, rfl, rfl⟩

end

section
variable {s s' : Session} (h : s.Sound)
include h

/-- Nothing else matters to soundness than these parts. -/
theorem Sound.change (hsubs : s'.subscriptions = s.subscriptions) (htasks : s'.tasks = s.tasks)
    (hover : s.broker.handedOver ≤ s'.broker.handedOver)
    (hstreams : s'.broker.streams = s.broker.streams)
    (hflight : ∀ p ∈ s'.broker.inFlight, p.stream < s.subscriptions.length)
    (hret : ∀ p ∈ s'.broker.returned, p.stream < s.subscriptions.length) : s'.Sound where
  serials := by rw [htasks]; exact h.serials
  numbered := by rw [htasks]; exact fun t ht => Nat.le_trans (h.numbered t ht) hover
  attended := by rw [htasks, hsubs]; exact h.attended
  inFlight := by rw [hsubs]; exact hflight
  returned := by rw [hsubs]; exact hret
  matched := by rw [hsubs, hstreams]; exact h.matched

theorem Sound.enqueue {t : Task} (hser : t.serial ∉ s.tasks.map Task.serial)
    (hnum : t.serial ≤ s.broker.handedOver)
    (hatt : ∃ sub, s.subscriptions[t.stream]? = some sub ∧
      ∃ id, sub.idOf? t.delivery.message = some id ∧
        ∀ id' answer, t.stage = .handling id' answer → id' = id) : (s.enqueue t).Sound where
  serials := by
    change ((s.tasks ++ [t]).map Task.serial).Nodup
    rw [List.map_append]
    exact h.serials.append (List.nodup_singleton _) (by simpa using hser)
  numbered := by
    intro t' ht'
    rcases List.mem_append.mp ht' with ht' | ht'
    · exact h.numbered t' ht'
    · rw [List.mem_singleton.mp ht']
      exact hnum
  attended := by
    intro t' ht'
    rcases List.mem_append.mp ht' with ht' | ht'
    · exact h.attended t' ht'
    · rw [List.mem_singleton.mp ht']
      exact hatt
  inFlight := h.inFlight
  returned := h.returned
  matched := h.matched

theorem Sound.dequeue (t : Task) : (s.dequeue t).Sound where
  serials := h.serials.sublist (List.filter_sublist.map _)
  numbered t' ht' := h.numbered t' (dequeue_tasks_subset s t ht')
  attended t' ht' := h.attended t' (dequeue_tasks_subset s t ht')
  inFlight := h.inFlight
  returned := h.returned
  matched := h.matched

theorem Sound.handing {stream : Nat} (message : Message) (tag : Option Nat)
    (hlt : stream < s.subscriptions.length) : (s.handing stream message tag).Sound := by
  refine h.change rfl rfl (Nat.le_succ _) rfl ?_ h.returned
  intro p hp
  rcases List.mem_cons.mp hp with rfl | hp
  · exact hlt
  · exact h.inFlight p (List.mem_filter.mp hp).1

theorem Sound.serial_notMem : s.broker.handedOver + 1 ∉ s.tasks.map Task.serial := by
  intro hm
  obtain ⟨t, ht, he⟩ := List.mem_map.mp hm
  have := h.numbered t ht
  omega

theorem Sound.arrive {sub : Subscription} {stream : Nat} (message : Message) (tag : Option Nat)
    (hsub : s.subscriptions[stream]? = some sub) : (s.arrive sub stream message tag).Sound := by
  obtain ⟨hb, hr⟩ := arrive_broker s sub stream message tag
  have hsubs := arrive_subscriptions s sub stream message tag
  have hs := h.handing message tag (List.getElem?_eq_some_iff.mp hsub).1
  have hflight := fun p hp => hs.inFlight p (hb.inFlight hp)
  have hret : ∀ p ∈ (s.arrive sub stream message tag).broker.returned,
      p.stream < s.subscriptions.length := by
    rw [hr]
    exact h.returned
  rcases arrive_tasks s sub stream message tag with ⟨ht, -⟩ | ⟨t, id, answer, ht, hid, hser, hstr,
    hdel, hstage⟩
  · exact hs.change hsubs ht (Nat.le_of_eq hb.handedOver.symm) hb.streams hflight hret
  · have hq : ((s.handing stream message tag).enqueue t).Sound := by
      refine hs.enqueue (by rw [hser]; exact h.serial_notMem) (Nat.le_of_eq hser) ?_
      rw [hstr, hdel]
      refine ⟨sub, hsub, id, hid, fun id' answer' he => ?_⟩
      rw [hstage] at he
      exact (Stage.handling.inj he).1.symm
    exact hq.change hsubs ht (Nat.le_of_eq hb.handedOver.symm) hb.streams hflight hret

theorem Sound.takeReturned (p : Parcel) : (s.takeReturned p).Sound :=
  h.change rfl rfl (Nat.le_refl _) rfl h.inFlight fun q hq =>
    h.returned q (List.mem_of_mem_erase hq)

theorem Sound.conclude {sub : Subscription} {t : Task} (id : String) (answer : Answer)
    (ht : t ∈ s.tasks) : (s.conclude sub t id answer).2.Sound := by
  obtain ⟨-, he⟩ := conclude_effect s sub t id answer
  have hb := conclude_apart s sub t id answer
  have htasks := he.tasks
  have hd := h.dequeue t
  have hflight := fun p hp => h.inFlight p (hb.inFlight hp)
  have hret : ∀ p ∈ (s.conclude sub t id answer).2.broker.returned,
      p.stream < s.subscriptions.length := by
    rw [conclude_returned]
    exact h.returned
  by_cases hq : s.verdict sub id answer = .requeued
  · rw [if_pos hq] at htasks
    have hs : ((s.dequeue t).enqueue (s.delayedTask sub t)).Sound := by
      refine hd.enqueue (serial_notMem_dequeue s t) (h.numbered t ht) ?_
      obtain ⟨sub', hsub', id', hid', -⟩ := h.attended t ht
      exact ⟨sub', hsub', id', hid', fun _ _ e => Stage.noConfusion e⟩
    exact hs.change he.subscriptions htasks (Nat.le_of_eq hb.handedOver.symm) hb.streams hflight
      hret
  · rw [if_neg hq, List.append_nil] at htasks
    exact hd.change he.subscriptions htasks (Nat.le_of_eq hb.handedOver.symm) hb.streams hflight
      hret

theorem Sound.giveBack {sub : Subscription} (t : Task) : ((s.dequeue t).giveBack sub t).Sound := by
  have he := giveBack_effect s sub t
  have hb := giveBack_apart s sub t
  have hr := s.broker.call_nack_returned_cases t.delivery.tag
  have hbroker : ((s.dequeue t).giveBack sub t).broker =
    (s.broker.call (.nack t.delivery.tag false true)).2 := he.broker
  rw [← hbroker] at hr
  refine (h.dequeue t).change he.subscriptions he.tasks (Nat.le_of_eq hb.handedOver.symm) hb.streams
    (fun p hp => h.inFlight p (hb.inFlight hp)) fun p hp => ?_
  rcases hr with hr | ⟨q, hq, hr⟩ <;> rw [hr] at hp
  · exact h.returned p hp
  · rcases List.mem_append.mp hp with hp | hp
    · exact h.returned p hp
    · rw [List.mem_singleton.mp hp]
      exact h.inFlight q (Broker.mem_inFlight_of_parcel? hq)

theorem Sound.close (stream : Nat) : (s.close stream).Sound := by
  rcases s.close_eq stream with he | ⟨_, he⟩ <;> rw [he]
  · exact h
  · exact ⟨h.serials, h.numbered, h.attended, h.inFlight, h.returned,
      h.matched.trans (List.length_modify _ _ _).symm⟩

theorem Sound.move {d : Deed} (m : Move s d s') : s'.Sound := by
  cases m with
  | arrive message tag hsub => exact h.arrive message tag hsub
  | again hp hsub => exact (h.takeReturned _).arrive _ none hsub
  | conclude ht => exact h.conclude _ _ ht
  | giveBack => exact h.giveBack _
  | lose => exact h.takeReturned _
  | close stream => exact h.close stream
  | count ledger id call =>
    cases call <;> exact h.change rfl rfl (Nat.le_refl _) rfl h.inFlight h.returned
  | aside ha =>
    have hlen := ha.subscriptions.length_le
    refine ⟨?_, ?_, ?_, ?_, ?_, ha.matched h.matched⟩
    · rw [ha.tasks]
      exact h.serials
    · rw [ha.tasks, ha.handedOver]
      exact h.numbered
    · rw [ha.tasks]
      intro t ht
      obtain ⟨sub, hsub, hid⟩ := h.attended t ht
      exact ⟨sub, getElem?_of_prefix ha.subscriptions hsub, hid⟩
    · rw [ha.inFlight]
      exact fun p hp => Nat.lt_of_lt_of_le (h.inFlight p hp) hlen
    · rw [ha.returned]
      exact fun p hp => Nat.lt_of_lt_of_le (h.returned p hp) hlen

/-- A delivery that waits for its handler is handled under the id of its message. -/
theorem Sound.idOf?_of_handling {sub : Subscription} {t : Task} {id : String} {answer : Answer}
    (ht : t ∈ s.tasks) (hsub : s.subscriptions[t.stream]? = some sub)
    (hstage : t.stage = .handling id answer) : sub.idOf? t.delivery.message = some id := by
  obtain ⟨sub', hsub', id', hid', hid⟩ := h.attended t ht
  rw [hsub] at hsub'
  rw [Option.some.inj hsub', hid', hid id answer hstage]

end

theorem Run.sound {allowed : Session → Deed → Prop} {s s' : Session} {h : List Record}
    (run : Run allowed s h s') (hs : s.Sound) : s'.Sound :=
  run.keeps (fun hs _ m => hs.move m) hs

section
variable {allowed : Session → Deed → Prop} {s s' : Session} {d : Deed} {h : List Record}

/-- The broker counts the hand-overs. -/
theorem Move.handedOver (m : Move s d s') :
    s'.broker.handedOver = s.broker.handedOver + d.handed?.toList.length := by
  cases m with
  | @arrive sub n message tag => exact (arrive_broker s sub n message tag).1.handedOver
  | @again sub p =>
    exact (arrive_broker (s.takeReturned p) sub p.stream p.message none).1.handedOver
  | @conclude sub t id answer => exact (conclude_apart s sub t id answer).handedOver
  | @giveBack sub t => exact (giveBack_apart s sub t).handedOver
  | lose => rfl
  | close n =>
    rcases s.close_eq n with h | ⟨_, h⟩ <;> rw [h] <;> rfl
  | count _ _ call => cases call <;> rfl
  | aside ha => exact ha.handedOver

theorem Run.handedOver (run : Run allowed s h s') :
    s'.broker.handedOver = s.broker.handedOver + (handOvers h).length := by
  induction run with
  | start => rfl
  | next run m ok ih =>
    rw [m.handedOver, ih, handOvers_append, List.length_append, Nat.add_assoc]

end

end Courier.Session
