import Courier.Proofs.Publication
import Courier.Proofs.Session.Schedule

/-! Work on deliveries has no part in what dispatchers have claimed, in what has been persisted, and
in what is planned for requests other than its own; and the journal tells which delivery it is
about. -/
namespace Courier

/-- What work on deliveries leaves alone at a desk. -/
structure Desk.Spares (d d' : Desk) : Prop where
  confirm : d'.broker.confirm = d.broker.confirm
  plan : ∀ rpc, rpc ≠ .ack → rpc ≠ .nack → d'.broker.faults.ahead rpc = d.broker.faults.ahead rpc
  persisted : d'.persisted = d.persisted

theorem Desk.Spares.trans {d d' d'' : Desk} (h : d.Spares d') (h' : d'.Spares d'') :
    d.Spares d'' where
  confirm := h'.confirm.trans h.confirm
  plan rpc ack nack := (h'.plan rpc ack nack).trans (h.plan rpc ack nack)
  persisted := h'.persisted.trans h.persisted

theorem Desk.called_spares (d : Desk) {r : Request} (hr : r.rpc = .ack ∨ r.rpc = .nack) :
    d.Spares (d.called r) := by
  refine ⟨d.broker.call_confirm r, fun rpc ack nack => d.broker.call_ahead ?_, rfl⟩
  intro he
  rw [he] at hr
  exact hr.elim ack nack

theorem Consumer.acknowledge_spares (k : Consumer) (dl : Delivery) (d : Desk) :
    d.Spares ((k.acknowledge dl).run d).2 := by
  have hcalled : d.Spares (d.called (.ack dl.tag false)) := d.called_spares (Or.inl rfl)
  cases h : k.contract.autoAck with
  | true =>
    rw [k.acknowledge_autoAck dl d h]
    exact ⟨rfl, fun _ _ _ => rfl, rfl⟩
  | false =>
    rw [k.acknowledge_manual dl d h]
    split
    · exact hcalled
    · exact ⟨hcalled.confirm, hcalled.plan, hcalled.persisted⟩

theorem Made.spares {α : Type} {work : StateM Desk α} (h : Made Chore.tends work) (d : Desk) :
    d.Spares (work.run d).2 := by
  induction h generalizing d with
  | bind _ _ first rest => exact (first d).trans (rest _ _)
  | look _ _ rest => exact rest d d
  | call ok => exact d.called_spares (Or.inr (eq_of_beq ok))
  | acknowledge => exact Consumer.acknowledge_spares _ _ d
  | drawId ok | startPersist ok => cases ok
  | _ => exact ⟨rfl, fun _ _ _ => rfl, rfl⟩

namespace Session

/-- What comes of work on deliveries alone. -/
structure Tends (s s' : Session) : Prop where
  env : s'.env = s.env
  dispatchers : s'.dispatchers = s.dispatchers
  journal : ∃ new, s'.journal = s.journal ++ new ∧ ∀ e ∈ new, e.delivery ≠ none
  confirm : s'.broker.confirm = s.broker.confirm
  plan : ∀ rpc, rpc ≠ .ack → rpc ≠ .nack → s'.broker.faults.ahead rpc = s.broker.faults.ahead rpc
  persisted : s'.persisted = s.persisted

theorem Tends.of_journal {s s' : Session} (env : s'.env = s.env)
    (dispatchers : s'.dispatchers = s.dispatchers) (journal : s'.journal = s.journal)
    (confirm : s'.broker.confirm = s.broker.confirm) (faults : s'.broker.faults = s.broker.faults)
    (persisted : s'.persisted = s.persisted) : s.Tends s' :=
  ⟨env, dispatchers, ⟨[], by rw [journal, List.append_nil], fun _ h => absurd h List.not_mem_nil⟩,
    confirm, fun _ _ _ => by rw [faults], persisted⟩

theorem Tends.refl (s : Session) : s.Tends s := .of_journal rfl rfl rfl rfl rfl rfl

theorem Tends.trans {s s' s'' : Session} (h : s.Tends s') (h' : s'.Tends s'') : s.Tends s'' := by
  obtain ⟨new, hnew, habout⟩ := h.journal
  obtain ⟨new', hnew', habout'⟩ := h'.journal
  refine ⟨h'.env.trans h.env, h'.dispatchers.trans h.dispatchers, ⟨new ++ new', ?_, ?_⟩,
    h'.confirm.trans h.confirm, fun rpc ack nack => (h'.plan rpc ack nack).trans
      (h.plan rpc ack nack), h'.persisted.trans h.persisted⟩
  · rw [hnew', hnew, List.append_assoc]
  · intro e he
    rcases List.mem_append.mp he with he | he
    · exact habout e he
    · exact habout' e he

theorem Tends.grows {s s' : Session} (h : s.Tends s') : s.journal <+: s'.journal := by
  obtain ⟨new, hnew, -⟩ := h.journal
  rw [hnew]
  exact List.prefix_append _ _

theorem Tends.foldl {α : Type} {f : Session → α → Session}
    (h : ∀ (s : Session) (a : α), s.Tends (f s a)) (as : List α) (s : Session) :
    s.Tends (as.foldl f s) := by
  induction as generalizing s with
  | nil => exact .refl s
  | cons a as ih => exact (h s a).trans (ih (f s a))

section
variable (s : Session) (sub : Subscription)

theorem attend_tends {α : Type} (serial tag : Nat) {work : StateM Desk α}
    (h : Made Chore.tends work) : s.Tends (s.attend sub serial tag work).2 := by
  obtain ⟨hconfirm, hplan, hpersisted⟩ := h.spares (s.desk sub.ledger)
  refine ⟨rfl, rfl, ⟨_, rfl, fun e he => ?_⟩, hconfirm, hplan, hpersisted⟩
  obtain ⟨n, -, rfl⟩ := List.mem_map.mp he
  exact Option.some_ne_none _

theorem enqueue_tends (t : Task) : s.Tends (s.enqueue t) := .of_journal rfl rfl rfl rfl rfl rfl

theorem giveBack_tends (t : Task) : s.Tends (s.giveBack sub t) :=
  attend_tends s sub _ _ (Made.giveBack t.delivery)

theorem proceed_tends (t : Task) : s.Tends (s.proceed t) := by
  unfold proceed
  split
  · exact .refl s
  · next sub _ =>
    split
    · exact giveBack_tends s sub t
    · next id answer _ =>
      have hconclude := attend_tends s sub t.serial t.delivery.tag
        ((Made.conclude sub.consumer t.delivery id answer).mono Chore.tends_of_resolves)
      generalize s.attend sub t.serial t.delivery.tag (sub.consumer.conclude t.delivery id answer) =
        result at hconclude
      obtain ⟨resolution, s'⟩ := result
      dsimp only at hconclude ⊢
      split
      · exact hconclude
      · split
        · exact hconclude.trans (giveBack_tends s' sub t)
        · exact hconclude.trans (enqueue_tends s' _)

theorem accept_tends (stream : Nat) (d : Delivery) : s.Tends (s.accept sub stream d).2 := by
  have haccept := attend_tends s sub s.broker.handedOver d.tag
    ((Made.accept sub.consumer d).mono Chore.tends_of_resolves)
  unfold accept
  dsimp only
  generalize s.attend sub s.broker.handedOver d.tag (sub.consumer.accept d) = result at haccept ⊢
  obtain ⟨_ | ⟨id, turn⟩, s'⟩ := result <;> exact haccept

theorem arrive_tends (stream : Nat) (message : Message) (tag : Option Nat) :
    s.Tends (s.arrive sub stream message tag) := by
  have handing : s.Tends (s.handing stream message tag) := .of_journal rfl rfl rfl rfl rfl rfl
  have accept := (s.handing stream message tag).accept_tends sub stream
    (s.handed stream message tag)
  unfold arrive
  generalize (s.handing stream message tag).accept sub stream (s.handed stream message tag) = result
    at accept ⊢
  obtain ⟨_ | ⟨wait, t⟩, s'⟩ := result
  · exact handing.trans accept
  · exact (handing.trans accept).trans (enqueue_tends s' t)

theorem conclude_tends (t : Task) (id : String) (answer : Answer) :
    s.Tends (s.conclude sub t id answer).2 := by
  have dequeue : s.Tends (s.dequeue t) := .of_journal rfl rfl rfl rfl rfl rfl
  have work := attend_tends (s.dequeue t) sub t.serial t.delivery.tag
    ((Made.conclude sub.consumer t.delivery id answer).mono Chore.tends_of_resolves)
  unfold conclude
  generalize (s.dequeue t).attend sub t.serial t.delivery.tag
    (sub.consumer.conclude t.delivery id answer) = result at work ⊢
  obtain ⟨r, s'⟩ := result
  dsimp only
  split
  · exact (dequeue.trans work).trans (enqueue_tends s' _)
  · exact dequeue.trans work

theorem handOver_tends (stream : Nat) (message : Message) (tag : Option Nat) :
    s.Tends (s.handOver stream message tag).2 := by
  have hbroker : s.Tends { s with broker := (s.broker.handOver stream message tag).2 } :=
    .of_journal rfl rfl rfl rfl rfl rfl
  unfold handOver
  dsimp only
  split
  · exact hbroker
  · next sub _ =>
    have haccept := accept_tends { s with broker := (s.broker.handOver stream message tag).2 } sub
      stream ⟨(s.broker.handOver stream message tag).1, message⟩
    generalize Session.accept { s with broker := (s.broker.handOver stream message tag).2 } sub
      stream ⟨(s.broker.handOver stream message tag).1, message⟩ = result at haccept ⊢
    obtain ⟨_ | ⟨wait, t⟩, s'⟩ := result
    · exact hbroker.trans haccept
    · refine (hbroker.trans haccept).trans ?_
      dsimp only
      split
      · exact proceed_tends s' t
      · exact enqueue_tends s' t

theorem handBack_tends (p : Parcel) : s.Tends (s.handBack p) := by
  have htaken : s.Tends (s.takeReturned p) := .of_journal rfl rfl rfl rfl rfl rfl
  unfold handBack
  dsimp only
  split
  · exact htaken.trans (handOver_tends _ _ _ _)
  · exact htaken

theorem next?_tends {s s' : Session} {horizon : Option Nat} (h : s.next? horizon = some s') :
    s.Tends s' := by
  cases next?_next h with
  | @proceeds t =>
    have hdequeued : s.Tends (s.dequeue t) := .of_journal rfl rfl rfl rfl rfl rfl
    exact hdequeued.trans (proceed_tends _ t)
  | redelivers => exact Tends.foldl handBack_tends _ s
  | passes => exact .of_journal rfl rfl rfl rfl rfl rfl

theorem runFor_tends (horizon : Option Nat) (fuel : Nat) : s.Tends (s.runFor horizon fuel) := by
  induction fuel generalizing s with
  | zero => exact .refl s
  | succ fuel ih =>
    unfold runFor
    split
    · exact .refl s
    · next s' h => exact (next?_tends h).trans (ih s')

theorem run_tends (horizon : Option Nat) : s.Tends (s.run horizon) := runFor_tends s horizon _

theorem advance_tends (ms : Nat) : s.Tends (s.advance ms) := by
  have hclock : (s.run (some (s.now + ms))).Tends (s.advance ms) :=
    .of_journal rfl rfl rfl rfl rfl rfl
  exact (run_tends s _).trans hclock

theorem waited_tends (ms : Nat) : s.Tends (s.waited ms) := by
  unfold waited
  split
  · exact .refl s
  · exact advance_tends s _

theorem route_tends : s.Tends s.route := by
  have hemptied : s.Tends { s with broker.postings := [] } := .of_journal rfl rfl rfl rfl rfl rfl
  refine hemptied.trans (Tends.foldl (fun s p => ?_) _ _)
  exact Tends.foldl (fun s stream => handOver_tends s stream p.message none) _ s

theorem deliver_tends (stream : Nat) (messages : List (Message × Option Nat)) :
    s.Tends (s.deliver stream messages).2 := by
  induction messages generalizing s with
  | nil => exact .refl s
  | cons m messages ih =>
    obtain ⟨message, tag⟩ := m
    unfold deliver
    by_cases ho : s.broker.isOpen stream = true
    · rw [if_pos ho]
      exact (handOver_tends s stream message tag).trans (ih _)
    · rw [if_neg ho]
      exact ih s

end

/-- What a move leaves as it is, unless it is made aside. -/
structure Stays (s s' : Session) : Prop where
  subscriptions : s'.subscriptions = s.subscriptions
  dispatchers : s'.dispatchers = s.dispatchers
  ledgers : s'.ledgers.length = s.ledgers.length
  journal : s.journal <+: s'.journal

section
variable {s s' s'' : Session} {d : Deed}

theorem Stays.refl (s : Session) : s.Stays s := ⟨rfl, rfl, rfl, List.prefix_rfl⟩

theorem Stays.trans (h : s.Stays s') (h' : s'.Stays s'') : s.Stays s'' where
  subscriptions := h'.subscriptions.trans h.subscriptions
  dispatchers := h'.dispatchers.trans h.dispatchers
  ledgers := h'.ledgers.trans h.ledgers
  journal := h.journal.trans h'.journal

theorem Move.stays (m : Move s d s') (hd : d ≠ .aside) : s.Stays s' := by
  have hlen := m.ledgers_length
  have tended : ∀ {s₁ s' : Session}, s.Tends s₁ → s'.subscriptions = s.subscriptions →
      s'.ledgers.length = s.ledgers.length → s₁.Tends s' → s.Stays s' :=
    fun first hsubs hlen rest =>
      have ht := first.trans rest
      ⟨hsubs, ht.dispatchers, hlen, ht.grows⟩
  cases m with
  | arrive => exact tended (.refl s) (arrive_subscriptions ..) hlen (arrive_tends ..)
  | @again sub p =>
    have taken : s.Tends (s.takeReturned p) := .of_journal rfl rfl rfl rfl rfl rfl
    exact tended taken (arrive_subscriptions ..) hlen (arrive_tends ..)
  | conclude => exact tended (.refl s) (conclude_effect ..).2.subscriptions hlen (conclude_tends ..)
  | @giveBack sub t =>
    have dequeued : s.Tends (s.dequeue t) := .of_journal rfl rfl rfl rfl rfl rfl
    exact tended dequeued (giveBack_effect ..).subscriptions hlen (giveBack_tends ..)
  | lose => exact ⟨rfl, rfl, rfl, List.prefix_rfl⟩
  | close n =>
    unfold Session.close
    split
    · exact .refl s
    · split
      · exact ⟨rfl, rfl, rfl, List.prefix_append _ _⟩
      · exact .refl s
  | count _ _ call => cases call <;> exact ⟨rfl, rfl, hlen, List.prefix_rfl⟩
  | aside => exact absurd rfl hd

end
end Session
end Courier
