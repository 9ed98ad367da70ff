import Courier.Proofs.Account.Once
import Courier.Proofs.Session.Orderly

/-! The items of a stream. A message is handed over, an error is logged, and the end of a stream
ends nothing else. -/
namespace Courier.Session

section
variable {s s' : Session} {d : Deed} {n : Nat}

theorem Sound.close_self (hs : s.Sound) (n : Nat) : (s.close n).broker.isOpen n = false := by
  unfold Session.close
  split
  · next hnone =>
    cases ho : s.broker.isOpen n with
    | false => rfl
    | true =>
      obtain ⟨sub, hsub⟩ := hs.known ho
      rw [hsub] at hnone
      cases hnone
  · split
    · change (s.broker.close n).isOpen n = false
      unfold Broker.isOpen Broker.close
      dsimp only
      rw [List.getElem?_modify_eq]
      cases s.broker.streams[n]? <;> rfl
    · next ho => exact Bool.not_eq_true _ ▸ ho

/-- A stream is open until it is closed, and no stream is opened again. -/
theorem Move.isOpen_iff (m : Move s d s') (hs : s.Sound) (hn : n < s.broker.streams.length) :
    s'.broker.isOpen n = true ↔ s.broker.isOpen n = true ∧ d ≠ .closed n := by
  refine ⟨fun ho => ?_, fun h => m.isOpen h.2 h.1⟩
  cases d with
  | aside =>
    cases m with
    | aside ha =>
      obtain ⟨new, hnew⟩ := ha.streams
      unfold Broker.isOpen at ho ⊢
      rw [← hnew, List.getElem?_append_left hn] at ho
      exact ⟨ho, Deed.noConfusion⟩
  | closed k =>
    cases m
    by_cases hk : n = k
    · rw [← hk, hs.close_self n] at ho
      cases ho
    · rw [close_isOpen s hk] at ho
      exact ⟨ho, fun e => hk (Deed.closed.inj e).symm⟩
  | _ =>
    have hstreams := (m.apart (by simp) (by simp)).2.1
    unfold Broker.isOpen at ho ⊢
    rw [hstreams] at ho
    exact ⟨ho, Deed.noConfusion⟩

variable {allowed : Session → Deed → Prop} {h : List Record}

/-- The loop of a stream goes on until the stream is closed, whatever else happens. -/
theorem Run.isOpen_iff (run : Run allowed s h s') (hs : s.Sound)
    (hn : n < s.broker.streams.length) :
    s'.broker.isOpen n = true ↔ s.broker.isOpen n = true ∧ ∀ r ∈ h, r.deed ≠ .closed n := by
  induction run with
  | start => exact ⟨fun ho => ⟨ho, fun _ hr => absurd hr List.not_mem_nil⟩, And.left⟩
  | @next h s₁ d s₂ run m ok ih =>
    have hsubs := run.keeps (P := fun t => s.subscriptions <+: t.subscriptions)
      (fun hp _ m => hp.trans m.subscriptions_prefix) List.prefix_rfl
    have hlt : n < s₁.broker.streams.length := by
      have hlen := hsubs.length_le
      have h₀ := hs.matched
      have h₁ := (run.sound hs).matched
      omega
    rw [m.isOpen_iff (run.sound hs) hlt, ih]
    simp only [List.mem_append, List.mem_singleton, or_imp, forall_and, forall_eq, and_assoc]

/-- An error on a stream is logged. -/
theorem streamError_only (s : Session) (n : Nat) (e : BrokerError) :
    ∃ new, s.streamError n e = { s with journal := s.journal ++ new } ∧
      ∀ entry ∈ new, entry.delivery = none ∧ entry.note.event.sight? = none := by
  unfold streamError
  split
  · refine ⟨[_], rfl, fun entry he => ?_⟩
    rw [List.mem_singleton.mp he]
    exact ⟨rfl, rfl⟩
  · refine ⟨[], ?_, fun entry he => absurd he List.not_mem_nil⟩
    rw [List.append_nil]

/-- The end of a stream is logged. Deliveries under way are left alone. -/
theorem close_only (s : Session) (n : Nat) :
    ∃ streams new, s.close n = { s with broker.streams := streams, journal := s.journal ++ new } ∧
      ∀ entry ∈ new, entry.delivery = none ∧ entry.note.event.sight? = none := by
  have same : ∃ streams new,
      s = { s with broker.streams := streams, journal := s.journal ++ new } ∧
        ∀ entry ∈ new, entry.delivery = none ∧ entry.note.event.sight? = none := by
    refine ⟨s.broker.streams, [], ?_, fun entry he => absurd he List.not_mem_nil⟩
    rw [List.append_nil]
  unfold Session.close
  split
  · exact same
  · split
    · refine ⟨_, [_], rfl, fun entry he => ?_⟩
      rw [List.mem_singleton.mp he]
      exact ⟨rfl, rfl⟩
    · exact same

/-- Each message that is delivered to an open stream is handed over once, and none that is delivered
to a closed one. -/
theorem deliver_once (hs : s.Sound) (n : Nat) (messages : List (Message × Option Nat)) :
    (∃ g, Run (Due (Causes (.deliver n messages))) s g (s.deliver n messages).2 ∧
      handOvers g = arrivedIn g ∧
      arrivedIn g = if s.broker.isOpen n then messages.map fun m => (n, m.1) else []) ∧
    (s.deliver n messages).2.broker.handedOver =
      s.broker.handedOver + if s.broker.isOpen n then messages.length else 0 := by
  have hands : ∃ g, Run (Due (Causes (.deliver n messages))) s g (s.deliver n messages).2 ∧
      handOvers g = arrivedIn g ∧
      arrivedIn g = if s.broker.isOpen n then messages.map fun m => (n, m.1) else [] :=
    deliver_hands messages hs (fun _ _ _ tag hm => ⟨⟨rfl, tag, hm, rfl⟩, trivial⟩)
      fun _ _ hd => ⟨hd.1.inner.causes _, hd.2⟩
  refine ⟨hands, ?_⟩
  obtain ⟨g, run, same, arrivals⟩ := hands
  rw [run.handedOver, same, arrivals]
  cases s.broker.isOpen n with
  | true => rw [if_pos rfl, if_pos rfl, List.length_map]
  | false => rfl

end

/-- Each hand-over is accounted for once. One delivery under way at most has its number, and all
that is seen under this number is what belongs to it: one call of the handler, one outcome and one
request at its end; for a body that is no envelope, no call and an outcome without an id. It leaves
the ledgers alone until an answer is acted on, and it can always be brought to its end.

Streams are read on until they are closed, each message once. An error on a stream changes nothing,
and a stream that is closed leaves the deliveries under way alone. When a session has carried out
commands and has settled, every hand-over has been brought to its end. -/
theorem accounted_once {s₀ : Session} (hs : s₀.Sound) :
    (∀ {s₁ s₂ s : Session} {before after : List Record} {deed : Deed} {sub : Subscription}
      {stream : Nat} {d : Delivery}, Run (fun _ _ => True) s₀ before s₁ → Move s₁ deed s₂ →
      (deed = .arrived sub stream d ∨ deed = .returned sub stream d) →
      Run (fun _ _ => True) s₂ after s →
      let n := s₀.broker.handedOver + (handOvers before).length + 1
      let h := before ++ ⟨deed, s₁.since s₂⟩ :: after
      (∃ sights, Progress sub stream d (s.tasksOf n) sights ∧
          accountOf n h = sights.filter sub.consumer.contract.handler.sees) ∧
        s₂.ledgers = s₁.ledgers ∧
        (s.tasksOf n ≠ [] → ∃ g s', Run Works s g s' ∧ g.length ≤ 2 ∧ s'.tasksOf n = []) ∧
        (∀ k, s₀.broker.isOpen k = true →
          (s.broker.isOpen k = true ↔ ∀ r ∈ h, r.deed ≠ .closed k)) ∧
        (∀ k messages,
          (∃ g, Run (Due (Causes (.deliver k messages))) s g (s.deliver k messages).2 ∧
            handOvers g = arrivedIn g ∧
            arrivedIn g = if s.broker.isOpen k then messages.map fun m => (k, m.1) else []) ∧
          (s.deliver k messages).2.broker.handedOver =
            s.broker.handedOver + if s.broker.isOpen k then messages.length else 0) ∧
        (∀ k e, ∃ new, s.streamError k e = { s with journal := s.journal ++ new } ∧
          ∀ entry ∈ new, entry.delivery = none ∧ entry.note.event.sight? = none) ∧
        ∀ k, ∃ streams new,
          s.close k = { s with broker.streams := streams, journal := s.journal ++ new } ∧
            ∀ entry ∈ new, entry.delivery = none ∧ entry.note.event.sight? = none) ∧
    (s₀.Orderly → ∀ commands : List Command, (∀ c ∈ commands, Untagged c) →
      ∃ h s, s₀.CarriesOut (commands ++ [.settle]) h s ∧ s.tasks = [] ∧
        ∀ before deed entries after sub stream d, h = before ++ ⟨deed, entries⟩ :: after →
          (deed = .arrived sub stream d ∨ deed = .returned sub stream d) →
          ∃ sights, Progress sub stream d [] sights ∧
            accountOf (s₀.broker.handedOver + (handOvers before).length + 1) h =
              sights.filter sub.consumer.contract.handler.sees) := by
  constructor
  · intro s₁ s₂ s before after deed sub stream d run m hd run' n h
    have hs₂ := (run.sound hs).move m
    have hnumber : s₁.broker.handedOver + 1 = n := by rw [run.handedOver]
    have whole : Run (fun _ _ => True) s₀ h s := by
      have all := (run.next m trivial).append run'
      rw [List.append_assoc] at all
      exact all
    have progress := progress_of_run hs run m hd run'
    rw [hnumber] at progress
    refine ⟨progress, (progress_of_handOver (run.sound hs) m hd).2.1, ?_, ?_, fun k messages => ?_,
      fun k e => s.streamError_only k e, fun k => s.close_only k⟩
    · intro hne
      obtain ⟨t, ht⟩ := List.exists_mem_of_ne_nil _ hne
      obtain ⟨hmem, hser⟩ := List.mem_filter.mp ht
      obtain ⟨g, s', works, hlen, hgone⟩ := (run'.sound hs₂).ends hmem
      exact ⟨g, s', works, hlen, of_decide_eq_true hser ▸ hgone⟩
    · intro k ho
      rw [whole.isOpen_iff hs (isOpen_lt ho)]
      exact and_iff_right ho
    · exact deliver_once (run'.sound hs₂) k messages
  · intro orderly commands untagged
    obtain ⟨h, s, done, -, tasks, -⟩ := steps_settle orderly commands untagged
    refine ⟨h, s, done, tasks, ?_⟩
    rintro before deed entries after sub stream d rfl hd
    obtain ⟨s₁, s₂, run, m, -, rfl, run'⟩ := done.run.split
    obtain ⟨sights, progress, account⟩ := progress_of_run hs run m hd run'
    have resolved : s.tasksOf (s₁.broker.handedOver + 1) = [] := by
      unfold tasksOf
      rw [tasks, List.filter_nil]
    rw [resolved] at progress
    rw [run.handedOver] at account
    exact ⟨sights, progress, account⟩

set_option maxRecDepth 100000 in
theorem given_back_after_close : ∃ s h,
    Run (fun _ _ => True) (Trial.session [Trial.subscription 1 2]) h s ∧
    s.tasksOf 1 = [] ∧ s.broker.isOpen 0 = false ∧
    (∃ sights, Progress (Trial.subscription 1 2) 0 ⟨1, Trial.message⟩ [] sights ∧
      accountOf 1 h = sights.filter (Trial.subscription 1 2).consumer.contract.handler.sees) ∧
    ∃ g t, (Trial.session [Trial.subscription 1 2]).CarriesOut
      ([.deliver 0 [(Trial.message, none)], .close 0] ++ [.settle]) g t ∧ t.tasks = [] := by
  let sub := Trial.subscription 1 2
  have fresh : (Trial.session [sub]).Fresh := ⟨rfl, rfl, rfl, rfl⟩
  have arrived := @Move.arrive (Trial.session [sub]) sub 0 Trial.message none rfl (by decide)
  have known := arrived.known (n := 0) rfl
  have closed := @Move.close ((Trial.session [sub]).arrive sub 0 Trial.message none) 0
  have known := closed.known known
  have failed := Move.conclude (t := Trial.task 1 0 Trial.failure) (by decide +kernel) known rfl
  have known := failed.known known
  have back := Move.giveBack
    (t := { Trial.task 1 0 Trial.failure with due := 1000, stage := .delayed })
    (by decide +kernel) known rfl
  have after : Run (fun _ _ => True) _ _ _ :=
    ((Run.start.next closed trivial).next failed trivial).next back trivial
  obtain ⟨inRuns, atCommands⟩ := accounted_once fresh.sound
  obtain ⟨sights, hp, hacc⟩ := (inRuns .start arrived (.inl rfl) after).1
  have supplied : (Trial.session [sub]).Supplied := ⟨by unfold Backed; decide, by decide⟩
  obtain ⟨g, t, done, none, -⟩ := atCommands (fresh.orderly supplied)
    [.deliver 0 [(Trial.message, none)], .close 0] (by
      refine List.forall_mem_cons.mpr ⟨List.forall_mem_singleton.mpr rfl, ?_⟩
      exact List.forall_mem_singleton.mpr trivial)
  refine ⟨_, _, (Run.single arrived trivial).append after, by decide +kernel, by decide +kernel,
    ⟨sights, ?_, hacc⟩, g, t, done, none⟩
  convert hp using 1
  · decide +kernel
  · decide +kernel

end Courier.Session
