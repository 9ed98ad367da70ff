import Courier.Proofs.Session.Sound

/-! The promises of a broker. As long as it hands no message over under the tag of a delivery under
way, each of these deliveries has its message in flight under its tag. What it grants it grants for
good, and open streams stay open until they are closed. -/
namespace Courier.Session

/-- Messages are handed over under tags that no delivery under way has. -/
def FreshTag (s : Session) : Deed → Prop
  | .arrived _ _ d | .returned _ _ d => ∀ t ∈ s.tasks, t.delivery.tag ≠ d.tag
  | _ => True

instance (s : Session) : (d : Deed) → Decidable (s.FreshTag d)
  | .arrived _ _ d | .returned _ _ d =>
    inferInstanceAs (Decidable (∀ t ∈ s.tasks, t.delivery.tag ≠ d.tag))
  | .concluded .. | .gaveBack .. | .lost _ | .closed _ | .counted .. | .aside => isTrue trivial

structure Tagged (s : Session) : Prop where
  distinct : (s.tasks.map (·.delivery.tag)).Nodup
  parcels : ∀ t ∈ s.tasks,
    s.broker.parcel? t.delivery.tag = some ⟨t.delivery.tag, t.stream, t.delivery.message⟩

theorem Fresh.tagged {s : Session} (h : s.Fresh) : s.Tagged where
  distinct := by rw [h.tasks]; exact List.nodup_nil
  parcels := by rw [h.tasks]; exact fun t ht => absurd ht List.not_mem_nil

section
variable {s s' : Session} (h : s.Tagged)
include h

theorem Tagged.tag_ne {t t' : Task} (ht : t ∈ s.tasks) (ht' : t' ∈ (s.dequeue t).tasks) :
    t'.delivery.tag ≠ t.delivery.tag := by
  intro he
  have hmem := dequeue_tasks_subset s t ht'
  have : t' = t := List.inj_on_of_nodup_map h.distinct hmem ht he
  subst this
  exact serial_notMem_dequeue s t' (List.mem_map_of_mem ht')

/-- Work under a tag that no delivery has any more. -/
theorem Tagged.apart {tag : Nat} (htasks : s'.tasks.Sublist s.tasks)
    (hb : Broker.Apart tag s.broker s'.broker) (hne : ∀ t ∈ s'.tasks, t.delivery.tag ≠ tag) :
    s'.Tagged where
  distinct := h.distinct.sublist (htasks.map _)
  parcels t ht := by
    rw [hb.parcels (hne t ht)]
    exact h.parcels t (htasks.subset ht)

theorem Tagged.handing {stream : Nat} {message : Message} {tag : Option Nat}
    (hne : ∀ t ∈ s.tasks, t.delivery.tag ≠ (s.handed stream message tag).tag) :
    (s.handing stream message tag).Tagged where
  distinct := h.distinct
  parcels t ht := (Broker.handOver_parcel?_of_ne _ _ _ _ (hne t ht)).trans (h.parcels t ht)

theorem Tagged.arrive {sub : Subscription} {stream : Nat} {message : Message} {tag : Option Nat}
    (hne : ∀ t ∈ s.tasks, t.delivery.tag ≠ (s.handed stream message tag).tag) :
    (s.arrive sub stream message tag).Tagged := by
  have hs := h.handing hne
  cases hd : Envelope.decode sub.consumer.contract.payloadType message.body with
  | error e =>
    have he := arrive_error s sub stream message tag hd
    have hb := Consumer.apart_ackOf? sub.consumer (s.handed stream message tag) .poisoned
      (s.handing stream message tag).broker
    rw [← he.broker] at hb
    have htasks : (s.arrive sub stream message tag).tasks = s.tasks := he.tasks
    refine hs.apart (by rw [htasks]; exact List.Sublist.refl _) hb ?_
    rw [htasks]
    exact hne
  | ok e =>
    have he := arrive_ok s sub stream message tag hd
    constructor
    · rw [he.tasks, List.map_append]
      refine hs.distinct.append (List.nodup_singleton _) ?_
      intro n hn hn'
      obtain ⟨t, ht, rfl⟩ := List.mem_map.mp hn
      exact hne t ht (List.mem_singleton.mp hn')
    · rw [he.tasks, he.broker]
      intro t ht
      rcases List.mem_append.mp ht with ht | ht
      · exact hs.parcels t ht
      · rw [List.mem_singleton.mp ht]
        exact Broker.handOver_parcel?_self _ _ _ _

theorem Tagged.conclude {sub : Subscription} {t : Task} (id : String) (answer : Answer)
    (ht : t ∈ s.tasks) : (s.conclude sub t id answer).2.Tagged := by
  obtain ⟨-, he⟩ := conclude_effect s sub t id answer
  have htasks := he.tasks
  by_cases hq : s.verdict sub id answer = .requeued
  · have hbroker : (s.conclude sub t id answer).2.broker = s.broker := by
      rw [he.broker, hq]
      unfold Consumer.ackOf?
      simp
    rw [if_pos hq] at htasks
    constructor
    · rw [htasks, List.map_append]
      refine (h.distinct.sublist (List.filter_sublist.map _)).append (List.nodup_singleton _) ?_
      intro n hn hn'
      obtain ⟨t', ht', rfl⟩ := List.mem_map.mp hn
      exact h.tag_ne ht ht' (List.mem_singleton.mp hn')
    · rw [htasks, hbroker]
      intro t' ht'
      rcases List.mem_append.mp ht' with ht' | ht'
      · exact h.parcels t' (dequeue_tasks_subset s t ht')
      · rw [List.mem_singleton.mp ht']
        exact h.parcels t ht
  · rw [if_neg hq, List.append_nil] at htasks
    refine h.apart (by rw [htasks]; exact List.filter_sublist) (conclude_apart s sub t id answer) ?_
    rw [htasks]
    exact fun t' ht' => h.tag_ne ht ht'

theorem Tagged.giveBack {sub : Subscription} {t : Task} (ht : t ∈ s.tasks) :
    ((s.dequeue t).giveBack sub t).Tagged := by
  have he := giveBack_effect s sub t
  refine h.apart (by rw [he.tasks]; exact List.filter_sublist) (giveBack_apart s sub t) ?_
  rw [he.tasks]
  exact fun t' ht' => h.tag_ne ht ht'

/-- What is given back to a broker that redelivers is to be handed over again. -/
theorem Tagged.giveBack_returned (nacks : s.broker.Grants .nack)
    (redelivers : s.broker.redelivers = true) (sub : Subscription) {t : Task} (ht : t ∈ s.tasks) :
    ((s.dequeue t).giveBack sub t).broker.returned =
      s.broker.returned ++ [⟨t.delivery.tag, t.stream, t.delivery.message⟩] := by
  rw [(giveBack_effect s sub t).broker]
  refine (Broker.call_nack_returned t.delivery.tag nacks redelivers).trans ?_
  rw [h.parcels t ht]
  rfl

theorem Tagged.same (htasks : s'.tasks = s.tasks)
    (hflight : s'.broker.inFlight = s.broker.inFlight) : s'.Tagged where
  distinct := by rw [htasks]; exact h.distinct
  parcels := by
    rw [htasks]
    intro t ht
    have := h.parcels t ht
    unfold Broker.parcel? at this ⊢
    rw [hflight]
    exact this

theorem Tagged.move {d : Deed} (m : Move s d s') (fresh : s.FreshTag d) : s'.Tagged := by
  cases m with
  | arrive => exact h.arrive fresh
  | @again _ p =>
    have taken : (s.takeReturned p).Tagged := h.same rfl rfl
    exact taken.arrive fresh
  | conclude ht => exact h.conclude _ _ ht
  | giveBack ht => exact h.giveBack ht
  | lose => exact h.same rfl rfl
  | close stream => exact h.same (close_tasks s stream) (close_inFlight s stream)
  | count ledger id call => cases call <;> exact h.same rfl rfl
  | aside ha => exact h.same ha.tasks ha.inFlight

end

section
variable {s s' : Session} {d : Deed}

/-- What becomes of the broker by a move that opens and closes no stream. -/
theorem Move.apart (m : Move s d s') (hd : d ≠ .aside) (hc : ∀ stream, d ≠ .closed stream) :
    s'.broker.redelivers = s.broker.redelivers ∧ s'.broker.streams = s.broker.streams ∧
      ∀ {rpc}, s.broker.Grants rpc → s'.broker.Grants rpc := by
  cases m with
  | @arrive sub stream message tag =>
    have hb := (arrive_broker s sub stream message tag).1
    exact ⟨hb.redelivers, hb.streams, hb.grants⟩
  | @again sub p =>
    have hb := (arrive_broker (s.takeReturned p) sub p.stream p.message none).1
    exact ⟨hb.redelivers, hb.streams, hb.grants⟩
  | @conclude sub t id answer =>
    have hb := conclude_apart s sub t id answer
    exact ⟨hb.redelivers, hb.streams, hb.grants⟩
  | @giveBack sub t =>
    have hb := giveBack_apart s sub t
    exact ⟨hb.redelivers, hb.streams, hb.grants⟩
  | lose => exact ⟨rfl, rfl, id⟩
  | close stream => exact absurd rfl (hc stream)
  | count _ _ call => cases call <;> exact ⟨rfl, rfl, id⟩
  | aside => exact absurd rfl hd

theorem Move.redelivers (m : Move s d s') : s'.broker.redelivers = s.broker.redelivers := by
  cases d with
  | aside => cases m with | aside h => exact h.redelivers
  | closed stream =>
    cases m
    rcases s.close_eq stream with h | ⟨_, h⟩
    · rw [h]
    · rw [h]
      rfl
  | _ => exact (m.apart (by simp) (by simp)).1

theorem Move.grants {rpc : Rpc} (m : Move s d s') (hr : rpc = .ack ∨ rpc = .nack)
    (hg : s.broker.Grants rpc) : s'.broker.Grants rpc := by
  cases d with
  | aside =>
    cases m with
    | aside h =>
      intro fault hf
      rw [h.faults rpc hr] at hf
      exact hg fault hf
  | closed stream =>
    cases m
    rcases s.close_eq stream with h | ⟨_, h⟩ <;> rw [h] <;> exact hg
  | _ => exact (m.apart (by simp) (by simp)).2.2 hg

theorem close_isOpen (s : Session) {stream stream' : Nat} (h : stream' ≠ stream) :
    (s.close stream).broker.isOpen stream' = s.broker.isOpen stream' := by
  rcases s.close_eq stream with he | ⟨_, he⟩ <;> rw [he]
  unfold Broker.isOpen Broker.close
  dsimp only
  rw [List.getElem?_modify_ne]
  exact fun e => h e.symm

theorem Move.isOpen {stream : Nat} (m : Move s d s') (hd : d ≠ .closed stream)
    (ho : s.broker.isOpen stream = true) : s'.broker.isOpen stream = true := by
  cases d with
  | aside =>
    cases m with
    | aside h =>
      have hlt := isOpen_lt ho
      obtain ⟨new, hnew⟩ := h.streams
      unfold Broker.isOpen at ho ⊢
      rw [← hnew, List.getElem?_append_left hlt]
      exact ho
  | closed stream' =>
    cases m
    rw [close_isOpen s fun e => hd (by rw [e])]
    exact ho
  | _ =>
    have hs := (m.apart (by simp) (by simp)).2.1
    unfold Broker.isOpen at ho ⊢
    rw [hs]
    exact ho

end

theorem Run.tagged {allowed : Session → Deed → Prop} {s s' : Session} {h : List Record}
    (run : Run allowed s h s') (fresh : ∀ s d, allowed s d → s.FreshTag d) (hs : s.Tagged) :
    s'.Tagged :=
  run.keeps (fun hs ok m => hs.move m (fresh _ _ ok)) hs

/-- Messages are handed over under the number of messages handed over so far. -/
def Numbers (s : Session) : Deed → Prop
  | .arrived _ _ d | .returned _ _ d => d.tag = s.broker.handedOver + 1
  | _ => True

def Numbered (s : Session) : Prop := ∀ t ∈ s.tasks, t.delivery.tag ≤ s.broker.handedOver

section
variable {s s' : Session} {d : Deed}

theorem Numbered.fresh (h : s.Numbered) (hd : s.Numbers d) : s.FreshTag d := by
  cases d with
  | arrived _ _ dl | returned _ _ dl =>
    intro t ht he
    have hle := h t ht
    have htag : dl.tag = s.broker.handedOver + 1 := hd
    omega
  | _ => trivial

theorem Numbered.arrive (h : s.Numbered) {sub : Subscription} {stream : Nat} {message : Message}
    {tag : Option Nat} (hd : (s.handed stream message tag).tag = s.broker.handedOver + 1) :
    (s.arrive sub stream message tag).Numbered := by
  have ho : (s.arrive sub stream message tag).broker.handedOver = s.broker.handedOver + 1 :=
    (arrive_broker s sub stream message tag).1.handedOver
  intro t ht
  rw [ho]
  have old : ∀ t ∈ s.tasks, t.delivery.tag ≤ s.broker.handedOver + 1 := fun t ht =>
    Nat.le_succ_of_le (h t ht)
  rcases arrive_tasks s sub stream message tag with ⟨he, -⟩ | ⟨t', _, _, he, -, -, -, hdl, -⟩
  · exact old t (he ▸ ht)
  · rw [he] at ht
    rcases List.mem_append.mp ht with ht | ht
    · exact old t ht
    · rw [List.mem_singleton.mp ht, hdl]
      exact Nat.le_of_eq hd

theorem Numbered.move (h : s.Numbered) (m : Move s d s') (hd : s.Numbers d) : s'.Numbered := by
  cases m with
  | arrive => exact h.arrive hd
  | @again _ p =>
    have taken : (s.takeReturned p).Numbered := h
    exact taken.arrive hd
  | @conclude sub t id answer ht =>
    intro t' ht'
    rw [(conclude_apart s sub t id answer).handedOver]
    rcases mem_conclude_tasks s sub t ht' with ht' | rfl
    · exact h t' (dequeue_tasks_subset s t ht')
    · exact h t ht
  | @giveBack sub t =>
    intro t' ht'
    rw [(giveBack_apart s sub t).handedOver]
    rw [(giveBack_effect s sub t).tasks] at ht'
    exact h t' (dequeue_tasks_subset s t ht')
  | lose => exact h
  | close stream =>
    have ho : (s.close stream).broker.handedOver = s.broker.handedOver := by
      rcases s.close_eq stream with he | ⟨_, he⟩
      · rw [he]
      · rw [he]
        rfl
    intro t ht
    rw [close_tasks] at ht
    rw [ho]
    exact h t ht
  | count _ _ call => cases call <;> exact h
  | aside ha =>
    intro t ht
    rw [ha.tasks] at ht
    rw [ha.handedOver]
    exact h t ht

end

/-- A broker that numbers its deliveries keeps its promise about tags. -/
theorem Run.fresh {allowed : Session → Deed → Prop} {s s' : Session} {h : List Record}
    (run : Run allowed s h s') (hs : s.Numbered) (numbers : ∀ s d, allowed s d → s.Numbers d) :
    Run (fun s d => allowed s d ∧ s.FreshTag d) s h s' := by
  suffices Run (fun s d => allowed s d ∧ s.FreshTag d) s h s' ∧ s'.Numbered from this.1
  induction run with
  | start => exact ⟨.start, hs⟩
  | next _ m ok ih =>
    obtain ⟨run, hnum⟩ := ih
    have hd := numbers _ _ ok
    exact ⟨run.next m ⟨ok, hnum.fresh hd⟩, hnum.move m hd⟩

end Courier.Session
