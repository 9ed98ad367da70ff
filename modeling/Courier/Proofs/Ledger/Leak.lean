import Courier.Proofs.Session.Tagged

/-! A ledger that only deliveries change holds nothing of messages that are resolved. -/
namespace Courier.Session

/-- A message on a stream is counted under `id` in a ledger if it fails. -/
def Owes (s : Session) (ledger : Nat) (id : String) (stream : Nat) (message : Message) : Prop :=
  ∃ sub, s.subscriptions[stream]? = some sub ∧ sub.consumer.contract.autoAck = false ∧
    sub.Carries ledger id message

/-- Some message that is counted under `id` is being handled, waits out its delay, or is to be
handed over again. -/
def Unresolved (s : Session) (ledger : Nat) (id : String) : Prop :=
  (∃ t ∈ s.tasks, s.Owes ledger id t.stream t.delivery.message) ∨
    ∃ p ∈ s.broker.returned, s.Owes ledger id p.stream p.message

/-- The ledger is left to the deliveries, tags name deliveries, and no message that is to be handed
over again finds its stream closed. -/
def Tended (ledger : Nat) (s : Session) (d : Deed) : Prop :=
  s.FreshTag d ∧ (∀ id, d ≠ .counted ledger id) ∧
    ∀ p id, d = .lost p → ¬ s.Owes ledger id p.stream p.message

section
variable {s s' : Session} {ledger : Nat} {id : String}

theorem Owes.mono {stream : Nat} {message : Message} (h : s.Owes ledger id stream message)
    (hsubs : s.subscriptions <+: s'.subscriptions) : s'.Owes ledger id stream message := by
  obtain ⟨sub, hsub, hmanual, hc⟩ := h
  exact ⟨sub, getElem?_of_prefix hsubs hsub, hmanual, hc⟩

theorem Owes.of_known {stream : Nat} {message : Message} {sub : Subscription}
    (h : s.Owes ledger id stream message) (hsub : s.subscriptions[stream]? = some sub) :
    sub.consumer.contract.autoAck = false ∧ sub.Carries ledger id message := by
  obtain ⟨sub', hsub', h'⟩ := h
  rw [hsub] at hsub'
  rw [Option.some.inj hsub']
  exact h'

/-- What is unresolved stays so as long as it is somewhere. -/
theorem Unresolved.mono (h : s.Unresolved ledger id)
    (hsubs : s.subscriptions <+: s'.subscriptions)
    (htasks : ∀ t ∈ s.tasks, s.Owes ledger id t.stream t.delivery.message → t ∈ s'.tasks)
    (hret : ∀ p ∈ s.broker.returned, s.Owes ledger id p.stream p.message →
      p ∈ s'.broker.returned) : s'.Unresolved ledger id := by
  rcases h with ⟨t, ht, ho⟩ | ⟨p, hp, ho⟩
  · exact Or.inl ⟨t, htasks t ht ho, ho.mono hsubs⟩
  · exact Or.inr ⟨p, hret p hp ho, ho.mono hsubs⟩

theorem Unresolved.same (h : s.Unresolved ledger id)
    (hsubs : s.subscriptions <+: s'.subscriptions) (htasks : s'.tasks = s.tasks)
    (hret : s'.broker.returned = s.broker.returned) : s'.Unresolved ledger id :=
  h.mono hsubs (by rw [htasks]; exact fun t ht _ => ht) (by rw [hret]; exact fun p hp _ => hp)

theorem Unresolved.arrive {sub : Subscription} {stream : Nat} {message : Message}
    {tag : Option Nat} (h : s.Unresolved ledger id) :
    (s.arrive sub stream message tag).Unresolved ledger id := by
  refine h.mono (arrive_subscriptions s sub stream message tag ▸ List.prefix_rfl) ?_ ?_
  · intro t ht _
    rcases arrive_tasks s sub stream message tag with ⟨he, -⟩ | ⟨_, _, _, he, -⟩
    · exact he ▸ ht
    · rw [he]
      exact List.mem_append_left _ ht
  · rw [(arrive_broker s sub stream message tag).2]
    exact fun p hp _ => hp

/-- A message that is handed over again is under way. -/
theorem Owes.arrive {sub : Subscription} {stream : Nat} {message : Message} {tag : Option Nat}
    (h : s.Owes ledger id stream message) (hsub : s.subscriptions[stream]? = some sub) :
    (s.arrive sub stream message tag).Unresolved ledger id := by
  obtain ⟨-, -, hid⟩ := h.of_known hsub
  rcases arrive_tasks s sub stream message tag with ⟨-, hn⟩ | ⟨t, _, _, ht, -, -, hs, hd, -⟩
  · rw [hid] at hn
    cases hn
  · refine Or.inl ⟨t, by rw [ht]; simp, ?_⟩
    rw [hs, hd]
    exact h.mono (arrive_subscriptions s sub stream message tag ▸ List.prefix_rfl)

/-- Other deliveries stay when one is concluded. -/
theorem Unresolved.conclude_other (h : s.Unresolved ledger id) (hs : s.Sound) (sub : Subscription)
    {t : Task} (id' : String) (answer : Answer) (ht : t ∈ s.tasks)
    (hno : ¬ s.Owes ledger id t.stream t.delivery.message) :
    (s.conclude sub t id' answer).2.Unresolved ledger id := by
  obtain ⟨-, he⟩ := conclude_effect s sub t id' answer
  refine h.mono (he.subscriptions ▸ List.prefix_rfl) ?_ ?_
  · intro t' ht' ho
    rw [he.tasks]
    refine List.mem_append_left _ (mem_dequeue ht' fun hser => hno ?_)
    rw [← hs.eq_of_serial ht ht' hser]
    exact ho
  · rw [conclude_returned]
    exact fun p hp _ => hp

/-- What a conclusion leaves in the ledger belongs to a message that is unresolved. -/
theorem Unresolved.conclude (hs : s.Sound) {sub : Subscription} {t : Task} {id' : String}
    {answer : Answer} (ht : t ∈ s.tasks) (hsub : s.subscriptions[t.stream]? = some sub)
    (hstage : t.stage = .handling id' answer) (hl : ledger < s.ledgers.length)
    (ih : (s.ledger ledger).count? id ≠ none → s.Unresolved ledger id)
    (hentry : ((s.conclude sub t id' answer).2.ledger ledger).count? id ≠ none) :
    (s.conclude sub t id' answer).2.Unresolved ledger id := by
  obtain ⟨hv, he⟩ := conclude_effect s sub t id' answer
  rw [conclude_count? s sub t id' answer id hl, hv] at hentry
  have hid := hs.idOf?_of_handling ht hsub hstage
  by_cases hc : sub.ledger = ledger ∧ id' = id
  · rw [if_pos hc] at hentry
    cases hr : s.verdict sub id' answer with
    | requeued =>
      have hmanual := (Consumer.verdict_requeued hr).2.1
      refine Or.inl ⟨s.delayedTask sub t, ?_, sub, he.subscriptions ▸ hsub, hmanual, hc.1, ?_⟩
      · rw [he.tasks, if_pos hr]
        exact List.mem_append_right _ (List.mem_singleton_self _)
      · exact hid.trans (congrArg some hc.2)
    | lost =>
      rw [hr] at hentry
      refine (ih hentry).conclude_other hs sub id' answer ht fun ho => ?_
      have hauto := Consumer.verdict_lost hr
      rw [(ho.of_known hsub).1] at hauto
      cases hauto
    | _ =>
      rw [hr] at hentry
      exact absurd rfl hentry
  · rw [if_neg hc] at hentry
    refine (ih hentry).conclude_other hs sub id' answer ht fun ho => hc ?_
    obtain ⟨-, hlg, hid'⟩ := ho.of_known hsub
    rw [hid] at hid'
    exact ⟨hlg, Option.some.inj hid'⟩

/-- A message that is given back is going to be handed over again. -/
theorem Unresolved.giveBack (hs : s.Sound) (ht : s.Tagged) (hg : s.broker.Grants .nack)
    (hr : s.broker.redelivers = true) {sub : Subscription} {t : Task} (hmem : t ∈ s.tasks)
    (h : s.Unresolved ledger id) : ((s.dequeue t).giveBack sub t).Unresolved ledger id := by
  have he := giveBack_effect s sub t
  have hsubs : s.subscriptions <+: ((s.dequeue t).giveBack sub t).subscriptions :=
    he.subscriptions ▸ List.prefix_rfl
  have hret := ht.giveBack_returned hg hr sub hmem
  rcases h with ⟨t', ht', ho⟩ | ⟨p, hp, ho⟩
  · by_cases hser : t'.serial = t.serial
    · rw [hs.eq_of_serial hmem ht' hser] at ho
      refine Or.inr ⟨⟨t.delivery.tag, t.stream, t.delivery.message⟩, ?_, ho.mono hsubs⟩
      rw [hret]
      exact List.mem_append_right _ (List.mem_singleton_self _)
    · exact Or.inl ⟨t', by rw [he.tasks]; exact mem_dequeue ht' hser, ho.mono hsubs⟩
  · exact Or.inr ⟨p, by rw [hret]; exact List.mem_append_left _ hp, ho.mono hsubs⟩

/-- A message that is to be handed over again is taken out only to be dealt with. -/
theorem Unresolved.takeReturned {p : Parcel} (h : s.Unresolved ledger id) :
    s.Owes ledger id p.stream p.message ∨ (s.takeReturned p).Unresolved ledger id := by
  rcases h with ⟨t, ht, ho⟩ | ⟨q, hq, ho⟩
  · exact Or.inr (Or.inl ⟨t, ht, ho⟩)
  · by_cases he : q = p
    · exact Or.inl (he ▸ ho)
    · exact Or.inr (Or.inr ⟨q, (List.mem_erase_of_ne he).mpr hq, ho⟩)

end

/-- What holds along a run in which the broker keeps its promises. -/
structure Traced (ledger : Nat) (s : Session) : Prop where
  sound : s.Sound
  tagged : s.Tagged
  grants : s.broker.Grants .nack
  redelivers : s.broker.redelivers = true
  bound : ledger < s.ledgers.length
  unresolved : ∀ id, (s.ledger ledger).count? id ≠ none → s.Unresolved ledger id

theorem Traced.move {ledger : Nat} {s s' : Session} {d : Deed} (h : Traced ledger s)
    (ok : Tended ledger s d) (m : Move s d s') : Traced ledger s' where
  sound := h.sound.move m
  tagged := h.tagged.move m ok.1
  grants := m.grants (Or.inr rfl) h.grants
  redelivers := m.redelivers.trans h.redelivers
  bound := by rw [m.ledgers_length]; exact h.bound
  unresolved id hentry := by
    obtain ⟨-, hcount, hlost⟩ := ok
    have hold := m.count?_eq h.bound (hcount id)
    have kept (hd : d.entered ledger id ((s.ledger ledger).count? id) =
        (s.ledger ledger).count? id) : s.Unresolved ledger id :=
      h.unresolved id fun hn => hentry (hold.trans (hd.trans hn))
    cases m with
    | arrive => exact (kept rfl).arrive
    | again hp hsub =>
      rcases (kept rfl).takeReturned with ho | hu
      · exact Owes.arrive (s := s.takeReturned _) ho hsub
      · exact hu.arrive
    | conclude ht hsub hstage =>
      exact Unresolved.conclude h.sound ht hsub hstage h.bound (h.unresolved id) hentry
    | giveBack ht =>
      exact (kept rfl).giveBack h.sound h.tagged h.grants h.redelivers ht
    | lose =>
      rcases (kept rfl).takeReturned with ho | hu
      · exact absurd ho (hlost _ id rfl)
      · exact hu
    | close stream =>
      exact (kept rfl).same (close_subscriptions s stream ▸ List.prefix_rfl)
        (close_tasks s stream) (close_returned s stream)
    | count _ _ call =>
      have hu := kept rfl
      cases call <;> exact hu.same List.prefix_rfl rfl rfl
    | aside ha => exact (kept rfl).same ha.subscriptions ha.tasks ha.returned

/-- In a ledger that was empty at first there is nothing but what belongs to unresolved messages, so
that it is empty again when nothing is under way. -/
theorem ledger_forgets_resolved {s s' : Session} {h : List Record} {ledger : Nat}
    (fresh : s.Fresh) (hl : ledger < s.ledgers.length) (empty : (s.ledger ledger).isEmpty = true)
    (redelivers : s.broker.redelivers = true) (nacks : s.broker.Grants .nack)
    (run : Run (Tended ledger) s h s') :
    (∀ id, (s'.ledger ledger).count? id ≠ none → s'.Unresolved ledger id) ∧
      (s'.tasks = [] → s'.broker.returned = [] → (s'.ledger ledger).isEmpty = true) := by
  have start : Traced ledger s := by
    refine ⟨fresh.sound, fresh.tagged, nacks, redelivers, hl, fun id hentry => ?_⟩
    rw [Ledger.count?_of_isEmpty empty] at hentry
    exact absurd rfl hentry
  have traced : Traced ledger s' := run.keeps (fun ht ok m => ht.move ok m) start
  refine ⟨traced.unresolved, fun htasks hret => Ledger.isEmpty_of_count? fun id => ?_⟩
  by_contra hentry
  rcases traced.unresolved id hentry with ⟨t, ht, -⟩ | ⟨p, hp, -⟩
  · rw [htasks] at ht
    cases ht
  · rw [hret] at hp
    cases hp

set_option maxRecDepth 100000 in
theorem ledger_holds_unresolved : ∃ s h,
    Run (Tended 0) (Trial.session [Trial.subscription 1 2]) h s ∧
    (s.ledger 0).count? "i" = some 1 ∧
    (∀ id, (s.ledger 0).count? id ≠ none → s.Unresolved 0 id) ∧
    (s.tasks = [] → s.broker.returned = [] → (s.ledger 0).isEmpty = true) := by
  let sub := Trial.subscription 1 2
  have arrived := @Move.arrive (Trial.session [sub]) sub 0 Trial.message none rfl (by decide)
  have concluded := Move.conclude (t := Trial.task 1 0 Trial.failure) (by decide +kernel)
    (arrived.known rfl) rfl
  have run : Run (Tended 0) _ _ _ :=
    (Run.start.next arrived ⟨fun _ ht => absurd ht List.not_mem_nil, fun _ => Deed.noConfusion,
      fun _ _ h => Deed.noConfusion h⟩).next concluded
      ⟨trivial, fun _ => Deed.noConfusion, fun _ _ h => Deed.noConfusion h⟩
  have fresh : (Trial.session [sub]).Fresh := ⟨rfl, rfl, rfl, rfl⟩
  exact ⟨_, _, run, by decide +kernel, ledger_forgets_resolved fresh (by decide) rfl rfl
    (fun _ h => absurd h List.not_mem_nil) run⟩

end Courier.Session
