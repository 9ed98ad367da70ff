import Courier.Proofs.Session.Tagged

/-! Messages that are pending: under way, or to be handed over again. Nothing becomes pending but
what arrives. -/
namespace Courier

/-- The id under which a message arrives, with the ledger in which it is counted. -/
def Deed.brings? : Deed → Option (Nat × String)
  | .arrived sub _ d => (sub.idOf? d.message).map (sub.ledger, ·)
  | _ => none

/-- The ids under which messages arrive, with their ledgers. -/
def idsIn (h : List Record) : List (Nat × String) := h.filterMap (·.deed.brings?)

/-- Where ids are distinct, what one message brings no other does. -/
theorem not_brings_of_nodup {before after : List Record} {r : Record} {key : Nat × String}
    (distinct : (idsIn (before ++ r :: after)).Nodup) (brings : r.deed.brings? = some key) :
    ∀ r' ∈ before ++ after, r'.deed.brings? ≠ some key := by
  have once : key ∉ idsIn (before ++ after) := by
    unfold idsIn at *
    rw [List.filterMap_append, List.filterMap_cons, brings] at distinct
    rw [List.filterMap_append]
    exact (List.nodup_cons.mp (List.nodup_middle.mp distinct)).1
  exact fun r' hr hb => once (List.mem_filterMap.mpr ⟨r', hr, hb⟩)

theorem Deed.brings?_of_carries {sub : Subscription} {stream : Nat} {d : Delivery} {ledger : Nat}
    {id : String} (h : sub.Carries ledger id d.message) :
    (Deed.arrived sub stream d).brings? = some (ledger, id) := by
  obtain ⟨rfl, hid⟩ := h
  unfold brings?
  dsimp only
  rw [hid]
  rfl

namespace Session

/-- The messages under way and those to be handed over again, with their streams. -/
def pending (s : Session) : List (Nat × Message) :=
  s.tasks.map (fun t => (t.stream, t.delivery.message)) ++
    s.broker.returned.map fun p => (p.stream, p.message)

/-- A message on a stream is counted under `id` in a ledger. -/
def Counts (s : Session) (ledger : Nat) (id : String) (stream : Nat) (message : Message) : Prop :=
  ∃ sub, s.subscriptions[stream]? = some sub ∧ sub.Carries ledger id message

/-- What is pending and counted under `id` in a ledger is on one of these streams. -/
def Confined (s : Session) (ledger : Nat) (id : String) (streams : List Nat) : Prop :=
  ∀ n m, (n, m) ∈ s.pending → s.Counts ledger id n m → n ∈ streams

section
variable {s s' : Session} {d : Deed}

theorem mem_pending {n : Nat} {m : Message} :
    (n, m) ∈ s.pending ↔ (∃ t ∈ s.tasks, t.stream = n ∧ t.delivery.message = m) ∨
      ∃ p ∈ s.broker.returned, p.stream = n ∧ p.message = m := by
  unfold pending
  simp

theorem pending_of_task {t : Task} (ht : t ∈ s.tasks) :
    (t.stream, t.delivery.message) ∈ s.pending := mem_pending.mpr (Or.inl ⟨t, ht, rfl, rfl⟩)

theorem pending_of_returned {p : Parcel} (hp : p ∈ s.broker.returned) :
    (p.stream, p.message) ∈ s.pending := mem_pending.mpr (Or.inr ⟨p, hp, rfl, rfl⟩)

theorem Sound.pending_lt (h : s.Sound) {n : Nat} {m : Message} (hm : (n, m) ∈ s.pending) :
    n < s.subscriptions.length := by
  rcases mem_pending.mp hm with ⟨t, ht, rfl, -⟩ | ⟨p, hp, rfl, -⟩
  · obtain ⟨sub, hsub, -⟩ := h.attended t ht
    exact (List.getElem?_eq_some_iff.mp hsub).1
  · exact h.returned p hp

theorem takeReturned_pending (p : Parcel) : (s.takeReturned p).pending ⊆ s.pending := by
  rintro ⟨n, m⟩ hm
  rcases mem_pending.mp hm with ⟨t, ht, rfl, rfl⟩ | ⟨q, hq, rfl, rfl⟩
  · exact mem_pending.mpr (Or.inl ⟨t, ht, rfl, rfl⟩)
  · exact pending_of_returned (List.mem_of_mem_erase hq)

theorem arrive_pending {sub : Subscription} {stream : Nat} {message : Message} {tag : Option Nat}
    {n : Nat} {m : Message} (hm : (n, m) ∈ (s.arrive sub stream message tag).pending) :
    (n, m) ∈ s.pending ∨ n = stream ∧ m = message := by
  rcases mem_pending.mp hm with ⟨t, ht, hn, hm⟩ | ⟨p, hp, hn, hm⟩
  · rcases arrive_tasks s sub stream message tag with ⟨he, -⟩ | ⟨t', _, _, he, -, -, hs, hd, -⟩
    · rw [he] at ht
      exact Or.inl (mem_pending.mpr (Or.inl ⟨t, ht, hn, hm⟩))
    · rw [he] at ht
      rcases List.mem_append.mp ht with ht | ht
      · exact Or.inl (mem_pending.mpr (Or.inl ⟨t, ht, hn, hm⟩))
      · rw [List.mem_singleton.mp ht] at hn hm
        rw [hd] at hm
        exact Or.inr ⟨hn.symm.trans hs, hm.symm⟩
  · rw [(arrive_broker s sub stream message tag).2] at hp
    exact Or.inl (mem_pending.mpr (Or.inr ⟨p, hp, hn, hm⟩))

/-- Nothing becomes pending but what arrives. -/
theorem Move.pending_cases (move : Move s d s') (tagged : s.Tagged) {n : Nat} {m : Message}
    (hm : (n, m) ∈ s'.pending) :
    (n, m) ∈ s.pending ∨
      ∃ sub tag, d = .arrived sub n ⟨tag, m⟩ ∧ s.subscriptions[n]? = some sub := by
  cases move with
  | @arrive sub stream message tag hsub =>
    rcases arrive_pending hm with h | ⟨rfl, rfl⟩
    · exact Or.inl h
    · exact Or.inr ⟨sub, _, rfl, hsub⟩
  | @again sub p hp hsub =>
    rcases arrive_pending hm with h | ⟨rfl, rfl⟩
    · exact Or.inl (takeReturned_pending p h)
    · exact Or.inl (pending_of_returned hp)
  | @conclude sub t id answer ht =>
    rcases mem_pending.mp hm with ⟨t', ht', rfl, rfl⟩ | ⟨p, hp, rfl, rfl⟩
    · rcases mem_conclude_tasks s sub t ht' with ht' | rfl
      · exact Or.inl (pending_of_task (dequeue_tasks_subset s t ht'))
      · have hold := pending_of_task ht
        exact Or.inl hold
    · rw [conclude_returned] at hp
      exact Or.inl (pending_of_returned hp)
  | @giveBack sub t ht =>
    have he := giveBack_effect s sub t
    rcases mem_pending.mp hm with ⟨t', ht', rfl, rfl⟩ | ⟨p, hp, rfl, rfl⟩
    · rw [he.tasks] at ht'
      exact Or.inl (pending_of_task (dequeue_tasks_subset s t ht'))
    · rw [he.broker] at hp
      rcases s.broker.call_nack_returned_cases t.delivery.tag with hr | ⟨q, hq, hr⟩
      · exact Or.inl (pending_of_returned (hr ▸ hp))
      · change p ∈ (s.broker.call (.nack t.delivery.tag false true)).2.returned at hp
        rw [hr] at hp
        rcases List.mem_append.mp hp with hp | hp
        · exact Or.inl (pending_of_returned hp)
        · rw [tagged.parcels t ht] at hq
          rw [List.mem_singleton.mp hp, ← Option.some.inj hq]
          exact Or.inl (pending_of_task ht)
  | @lose p => exact Or.inl (takeReturned_pending p hm)
  | close stream =>
    unfold pending at hm ⊢
    rw [close_tasks, close_returned] at hm
    exact Or.inl hm
  | count _ _ call => cases call <;> exact Or.inl hm
  | aside ha =>
    unfold pending at hm ⊢
    rw [ha.tasks, ha.returned] at hm
    exact Or.inl hm

theorem Counts.of_prefix {ledger : Nat} {id : String} {n : Nat} {m : Message}
    (h : s'.Counts ledger id n m) (hsubs : s.subscriptions <+: s'.subscriptions)
    (hn : n < s.subscriptions.length) : s.Counts ledger id n m := by
  obtain ⟨sub, hsub, hc⟩ := h
  have hs := getElem?_of_prefix hsubs (List.getElem?_eq_getElem hn)
  rw [hsub] at hs
  exact ⟨sub, by rw [Option.some.inj hs]; exact List.getElem?_eq_getElem hn, hc⟩

theorem Confined.move {ledger : Nat} {id : String} {streams : List Nat}
    (h : s.Confined ledger id streams) (sound : s.Sound) (tagged : s.Tagged) (m : Move s d s')
    (arrivals : ∀ sub n d', d = .arrived sub n d' → sub.Carries ledger id d'.message →
      n ∈ streams) : s'.Confined ledger id streams := by
  intro n message hm hc
  rcases m.pending_cases tagged hm with hold | ⟨sub, tag, hd, hsub⟩
  · exact h n message hold (hc.of_prefix m.subscriptions_prefix (sound.pending_lt hold))
  · obtain ⟨sub', hsub', hcar⟩ :=
      hc.of_prefix m.subscriptions_prefix (List.getElem?_eq_some_iff.mp hsub).1
    have : sub' = sub := Option.some.inj (hsub'.symm.trans hsub)
    subst this
    exact arrivals sub' n ⟨tag, message⟩ hd hcar

/-- The first message of an id confines it to a stream. -/
theorem Confined.first {sub : Subscription} {stream : Nat} {dl : Delivery} {ledger : Nat}
    {id : String} (nobody : s.Confined ledger id []) (sound : s.Sound) (tagged : s.Tagged)
    (m : Move s (.arrived sub stream dl) s') : s'.Confined ledger id [stream] := by
  have start : s.Confined ledger id [stream] := fun n m' hm hc =>
    absurd (nobody n m' hm hc) List.not_mem_nil
  refine start.move sound tagged m fun sub' n d' hd _ => ?_
  rw [← (Deed.arrived.inj hd).2.1]
  exact List.mem_singleton_self stream

/-- Conclusions under an id that is confined to streams are about messages there. -/
theorem Confined.concluded {sub : Subscription} {stream : Nat} {dl : Delivery} {id : String}
    {answer : Answer} {r : Resolution} {streams : List Nat}
    (h : s.Confined sub.ledger id streams) (sound : s.Sound)
    (m : Move s (.concluded sub stream dl id answer r) s') :
    stream ∈ streams ∧ s.subscriptions[stream]? = some sub ∧ sub.idOf? dl.message = some id := by
  cases m with
  | @conclude _ t _ _ ht hsub hstage =>
    have hid := sound.idOf?_of_handling ht hsub hstage
    exact ⟨h _ _ (pending_of_task ht) ⟨sub, hsub, rfl, hid⟩, hsub, hid⟩

end

/-- Nothing of an id is pending, and its count is as it was at first. -/
structure Untouched (s₀ : Session) (ledger : Nat) (id : String) (s : Session) : Prop where
  sound : s.Sound
  tagged : s.Tagged
  bound : ledger < s.ledgers.length
  nobody : s.Confined ledger id []
  count : (s.ledger ledger).count? id = (s₀.ledger ledger).count? id

section
variable {s₀ s s' : Session} {d : Deed} {ledger : Nat} {id : String}

theorem Fresh.untouched (fresh : s₀.Fresh) (bound : ledger < s₀.ledgers.length) :
    Untouched s₀ ledger id s₀ := by
  refine ⟨fresh.sound, fresh.tagged, bound, fun n m hm => ?_, rfl⟩
  unfold pending at hm
  rw [fresh.tasks, fresh.returned] at hm
  exact absurd hm List.not_mem_nil

/-- Messages with other ids have nothing to do with this one. -/
theorem Untouched.move (h : Untouched s₀ ledger id s) (m : Move s d s') (fresh : s.FreshTag d)
    (uncounted : d ≠ .counted ledger id) (new : d.brings? ≠ some (ledger, id)) :
    Untouched s₀ ledger id s' := by
  have nobody := h.nobody.move h.sound h.tagged m fun sub n d' hd hc =>
    absurd (hd ▸ Deed.brings?_of_carries hc) new
  refine ⟨h.sound.move m, h.tagged.move m fresh, m.ledgers_length ▸ h.bound, nobody,
    Eq.trans ?_ h.count⟩
  rw [m.count?_eq h.bound uncounted]
  cases d with
  | concluded sub n dl id' answer r =>
    refine if_neg ?_
    rintro ⟨hl, rfl⟩
    exact absurd ((hl ▸ h.nobody).concluded h.sound m).1 List.not_mem_nil
  | _ => rfl

theorem Run.untouched {allowed : Session → Deed → Prop} {h : List Record}
    (run : Run allowed s h s') (start : Untouched s₀ ledger id s)
    (ok : ∀ s d, allowed s d → s.FreshTag d ∧ d ≠ .counted ledger id)
    (new : ∀ r ∈ h, r.deed.brings? ≠ some (ledger, id)) : Untouched s₀ ledger id s' :=
  (run.among (Q := fun d => d.brings? ≠ some (ledger, id)) new).keeps
    (fun h allowed m => h.move m (ok _ _ allowed.1).1 (ok _ _ allowed.1).2 allowed.2) start

end
end Session
end Courier
