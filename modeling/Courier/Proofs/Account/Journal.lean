import Courier.Proofs.Account.Sight
import Courier.Proofs.Session.Tagged

/-! What the journal tells of each delivery. -/
namespace Courier

/-- A handler that does not report is told nothing. -/
def Handler.sees (h : Handler) : Sight → Bool
  | .told _ _ => h.reports
  | _ => true

/-- What entries show. -/
def Entry.sights (entries : List Entry) : List Sight :=
  entries.filterMap (·.note.event.sight?)

theorem Entry.sights_append (log new : List Entry) :
    Entry.sights (log ++ new) = Entry.sights log ++ Entry.sights new := List.filterMap_append

/-- A deed that is work on a delivery. -/
def Deed.attends : Deed → Bool
  | .arrived .. | .returned .. | .concluded .. | .gaveBack .. => true
  | _ => false

/-- An entry about the delivery with this number. -/
def Entry.isAbout (n : Nat) (e : Entry) : Bool := (e.delivery.map Prod.fst) = some n

/-- What is seen of the delivery with this number. -/
def accountOf (n : Nat) (h : List Record) : List Sight :=
  h.flatMap fun r => Entry.sights (r.entries.filter (Entry.isAbout n))

/-- What has been entered about the delivery with this number. -/
def logOf (n : Nat) (h : List Record) : List Entry :=
  h.flatMap fun r => r.entries.filter (Entry.isAbout n)

theorem logOf_append (n : Nat) (h g : List Record) : logOf n (h ++ g) = logOf n h ++ logOf n g :=
  List.flatMap_append

theorem logOf_singleton (n : Nat) (r : Record) :
    logOf n [r] = r.entries.filter (Entry.isAbout n) := List.append_nil _

theorem accountOf_eq (n : Nat) (h : List Record) : accountOf n h = Entry.sights (logOf n h) := by
  induction h with
  | nil => rfl
  | cons r h ih =>
    change Entry.sights _ ++ accountOf n h = Entry.sights (_ ++ logOf n h)
    rw [ih, Entry.sights_append]

theorem Entry.sights_heard (h : Handler) (time : Nat) (delivery : Option (Nat × Nat))
    (notes : List Note) :
    Entry.sights ((notes.filter fun n => h.hears n.event).map fun n => ⟨time, delivery, n⟩) =
      (notes.filterMap (·.event.sight?)).filter h.sees := by
  unfold Entry.sights
  rw [List.filterMap_map, List.filterMap_filter, List.filter_filterMap]
  congr 1
  funext n
  change (if h.hears n.event then n.event.sight? else none) = n.event.sight?.filter h.sees
  cases n.event with
  | outcome | persisted =>
    cases hr : h.reports <;> simp [Handler.hears, Handler.sees, Option.filter, hr]
  | _ => rfl

namespace Session

/-- What a session has entered into its journal is about one delivery, and shows this. -/
structure Tells (s s' : Session) (serial tag : Nat) (sights : List Sight) : Prop where
  now : s'.now = s.now
  about : ∀ e ∈ s.since s', e.time = s.now ∧ e.delivery = some (serial, tag)
  sights : Entry.sights (s.since s') = sights

section
variable {s s' : Session} {serial tag : Nat} {sights : List Sight}

theorem Tells.log_self (h : s.Tells s' serial tag sights) (d : Deed) :
    logOf serial [⟨d, s.since s'⟩] = s.since s' := by
  rw [logOf_singleton]
  refine List.filter_eq_self.mpr fun e he => ?_
  unfold Entry.isAbout
  rw [(h.about e he).2]
  exact decide_eq_true rfl

theorem Tells.log_other (h : s.Tells s' serial tag sights) (d : Deed) {n : Nat}
    (hn : n ≠ serial) : logOf n [⟨d, s.since s'⟩] = [] := by
  rw [logOf_singleton]
  refine List.filter_eq_nil_iff.mpr fun e he => ?_
  unfold Entry.isAbout
  rw [(h.about e he).2]
  simpa using hn.symm

theorem Tells.account_self (h : s.Tells s' serial tag sights) (d : Deed) :
    accountOf serial [⟨d, s.since s'⟩] = sights := by
  rw [accountOf_eq, h.log_self, h.sights]

/-- Work at a desk shows on the journal what the handler sees of it. -/
theorem attend_tells {α : Type} (s : Session) (sub : Subscription) (serial tag : Nat)
    (work : StateM Desk α) (h : ((work.run (s.desk sub.ledger)).2).sights = sights) :
    s.Tells (s.attend sub serial tag work).2 serial tag
      (sights.filter sub.consumer.contract.handler.sees) := by
  have hs : s.since (s.attend sub serial tag work).2 = _ := since_eq rfl
  refine ⟨rfl, ?_, ?_⟩
  · intro e he
    rw [hs] at he
    obtain ⟨n, -, rfl⟩ := List.mem_map.mp he
    exact ⟨rfl, rfl⟩
  · rw [hs, Entry.sights_heard, ← h]
    rfl

end

section
variable (s : Session) (sub : Subscription) (stream : Nat) (message : Message) (tag : Option Nat)

theorem accept_tells {sights : List Sight} (d : Delivery)
    (h : ((sub.consumer.accept d).run (s.desk sub.ledger)).2.sights = sights) :
    s.Tells (s.accept sub stream d).2 s.broker.handedOver d.tag
      (sights.filter sub.consumer.contract.handler.sees) := by
  have ht := attend_tells s sub s.broker.handedOver d.tag (sub.consumer.accept d) h
  unfold accept
  dsimp only
  generalize s.attend sub s.broker.handedOver d.tag (sub.consumer.accept d) = result at ht ⊢
  obtain ⟨_ | ⟨id, turn⟩, s'⟩ := result <;> exact ⟨ht.now, ht.about, ht.sights⟩

theorem arrive_tells {sights : List Sight}
    (h : ((sub.consumer.accept (s.handed stream message tag)).run
      ((s.handing stream message tag).desk sub.ledger)).2.sights = sights) :
    s.Tells (s.arrive sub stream message tag) (s.broker.handedOver + 1)
      (s.handed stream message tag).tag (sights.filter sub.consumer.contract.handler.sees) := by
  have ht := accept_tells (s.handing stream message tag) sub stream _ h
  unfold arrive
  generalize (s.handing stream message tag).accept sub stream (s.handed stream message tag) = result
    at ht ⊢
  obtain ⟨_ | ⟨wait, t⟩, s'⟩ := result <;> exact ⟨ht.now, ht.about, ht.sights⟩

theorem arrive_error_tells {e : EnvelopeError}
    (h : Envelope.decode sub.consumer.contract.payloadType message.body = .error e) :
    s.Tells (s.arrive sub stream message tag) (s.broker.handedOver + 1)
      (s.handed stream message tag).tag
      ((.told "" (some e.message) :: ((s.handing stream message tag).broker.shows
        (sub.consumer.ackOf? (s.handed stream message tag) .poisoned) ++
          [.resolved .poisoned])).filter sub.consumer.contract.handler.sees) :=
  s.arrive_tells sub stream message tag (sub.consumer.accept_error_sights _ _ h)

theorem arrive_ok_tells {e : Envelope}
    (h : Envelope.decode sub.consumer.contract.payloadType message.body = .ok e) :
    s.Tells (s.arrive sub stream message tag) (s.broker.handedOver + 1)
      (s.handed stream message tag).tag [.handled e.payload] :=
  s.arrive_tells sub stream message tag (sub.consumer.accept_ok_sights _ _ h)

end

section
variable (s : Session) (sub : Subscription) (t : Task)

theorem conclude_tells (id : String) (answer : Answer) :
    s.Tells (s.conclude sub t id answer).2 t.serial t.delivery.tag
      ((.told id answer.failure? :: (s.broker.shows
        (sub.consumer.ackOf? t.delivery (s.verdict sub id answer)) ++
          (s.verdict sub id answer).seenAtOnce)).filter sub.consumer.contract.handler.sees) := by
  have ht := attend_tells (s.dequeue t) sub t.serial t.delivery.tag _
    (sub.consumer.conclude_sights t.delivery id ((s.dequeue t).desk sub.ledger) answer)
  unfold conclude
  generalize (s.dequeue t).attend sub t.serial t.delivery.tag
    (sub.consumer.conclude t.delivery id answer) = result at ht ⊢
  obtain ⟨r, s'⟩ := result
  dsimp only at ht ⊢
  split <;> exact ⟨ht.now, ht.about, ht.sights⟩

theorem giveBack_tells :
    s.Tells ((s.dequeue t).giveBack sub t) t.serial t.delivery.tag
      (s.broker.shows (some (.nack t.delivery.tag false true)) ++ [.resolved .requeued]) := by
  have ht := attend_tells (s.dequeue t) sub t.serial t.delivery.tag _
    (Consumer.giveBack_sights t.delivery ((s.dequeue t).desk sub.ledger))
  exact ⟨ht.now, ht.about, ht.sights⟩

end

section
variable {s s' : Session} {d : Deed}

theorem since_self (s : Session) : s.since s = [] := by
  unfold since
  rw [List.drop_length]

/-- Other deeds enter nothing about any delivery. -/
theorem Move.since_aside (m : Move s d s') (hd : d.attends = false) :
    ∀ e ∈ s.since s', e.delivery = none := by
  intro e he
  cases m with
  | arrive | again | conclude | giveBack => cases hd
  | lose =>
    have he' : e ∈ s.since s := he
    rw [since_self] at he'
    cases he'
  | close n =>
    unfold Session.close at he
    split at he
    · rw [since_self] at he
      cases he
    · split at he
      · rw [since_eq rfl, List.mem_singleton] at he
        rw [he]
      · rw [since_self] at he
        cases he
  | count ledger id call =>
    have hj : (s.callLedger ledger id call).2.journal = s.journal := by cases call <;> rfl
    rw [since_eq (hj.trans (List.append_nil _).symm)] at he
    cases he
  | aside ha =>
    obtain ⟨old, new, ho, hj, hnone⟩ := ha.journal
    refine hnone e ?_
    unfold since at he
    rw [hj] at he
    rcases ho with rfl | rfl
    · rwa [List.drop_left] at he
    · exact List.mem_of_mem_drop he

theorem log_aside {entries : List Entry} (h : ∀ e ∈ entries, e.delivery = none) (d : Deed)
    (n : Nat) : logOf n [⟨d, entries⟩] = [] := by
  rw [logOf_singleton]
  refine List.filter_eq_nil_iff.mpr fun e he => ?_
  unfold Entry.isAbout
  rw [h e he]
  exact Bool.false_ne_true

end
end Session
end Courier
