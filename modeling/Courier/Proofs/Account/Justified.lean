import Courier.Proofs.Account.Once

/-! Why requests are made. Each of them follows from what has come of the delivery before: whether
its body can be read, how its handler answered, and what the ledger counted at that moment. -/
namespace Courier.Session

/-- The run of the deeds `h` from `s₀` to `t` passes through a move, after the deeds `before`. -/
structure Passes (s₀ : Session) (before h : List Record) (t s : Session) (d : Deed) (s' : Session) :
    Prop where
  reached : Run (fun _ _ => True) s₀ before s
  move : Move s d s'
  goesOn : ∃ after, h = before ++ ⟨d, s.since s'⟩ :: after ∧ Run (fun _ _ => True) s' after t

/-- The delivery with number `n` has been handed to its handler, whose answer is given. -/
inductive Begun (s₀ : Session) (h : List Record) (t : Session) (n : Nat) (sub : Subscription)
    (stream : Nat) (d : Delivery) : String → Answer → Prop
  | intro {before : List Record} {s s' : Session} {deed : Deed} {e : Envelope}
      (passes : Passes s₀ before h t s deed s')
      (handed : deed = .arrived sub stream d ∨ deed = .returned sub stream d)
      (number : n = s.broker.handedOver + 1)
      (read : Envelope.decode sub.consumer.contract.payloadType d.message.body = .ok e) :
      Begun s₀ h t n sub stream d e.id (sub.consumer.turn (s.desk sub.ledger) e.payload).answer

/-- The handler of the delivery with number `n` has failed while the count of its id was below the
limit. -/
inductive SentBack (s₀ : Session) (h : List Record) (t : Session) (n : Nat) (sub : Subscription)
    (stream : Nat) (d : Delivery) : Prop
  | intro {before : List Record} {s s' : Session} {id : String} {answer : Answer}
      {sights : List Sight}
      (passes : Passes s₀ before h t s (.concluded sub stream d id answer .requeued) s')
      (tells : s.Tells s' n d.tag sights) (begun : Begun s₀ before s n sub stream d id answer)
      (failed : answer.fails = true)
      (left : (s.ledger sub.ledger).get id < sub.consumer.contract.maxRetry)

/-- Why a request about the delivery with number `n` is made by a deed in the situation `s`, after
the deeds `h`. -/
inductive Justified (s₀ : Session) (h : List Record) (s : Session) (n : Nat) :
    Deed → Request → Prop
  | unread {sub : Subscription} {stream : Nat} {d : Delivery} {deed : Deed} {e : EnvelopeError}
      (handed : deed = .arrived sub stream d ∨ deed = .returned sub stream d)
      (number : n = s.broker.handedOver + 1) (manual : sub.consumer.contract.autoAck = false)
      (unread : Envelope.decode sub.consumer.contract.payloadType d.message.body = .error e) :
      Justified s₀ h s n deed (.ack d.tag false)
  | passed {sub : Subscription} {stream : Nat} {d : Delivery} {id : String} {answer : Answer}
      {r : Resolution} (manual : sub.consumer.contract.autoAck = false)
      (begun : Begun s₀ h s n sub stream d id answer) (passed : answer.fails = false) :
      Justified s₀ h s n (.concluded sub stream d id answer r) (.ack d.tag false)
  | exhausted {sub : Subscription} {stream : Nat} {d : Delivery} {id : String} {answer : Answer}
      {r : Resolution} (manual : sub.consumer.contract.autoAck = false)
      (begun : Begun s₀ h s n sub stream d id answer) (failed : answer.fails = true)
      (spent : sub.consumer.contract.maxRetry ≤ (s.ledger sub.ledger).get id) :
      Justified s₀ h s n (.concluded sub stream d id answer r) (.ack d.tag false)
  | sentBack {sub : Subscription} {stream : Nat} {d : Delivery}
      (manual : sub.consumer.contract.autoAck = false)
      (sentBack : SentBack s₀ h s n sub stream d) :
      Justified s₀ h s n (.gaveBack sub stream d) (.nack d.tag false true)

/-- The history of a delivery under way: it waits for its handler, whose turn has begun, or its
handler has failed and there were retries left. -/
inductive History (s₀ : Session) (h : List Record) (s : Session) (sub : Subscription) (t : Task) :
    Prop
  | handling {id : String} {answer : Answer} (stage : t.stage = .handling id answer)
      (begun : Begun s₀ h s t.serial sub t.stream t.delivery id answer)
  | delayed (stage : t.stage = .delayed) (manual : sub.consumer.contract.autoAck = false)
      (sentBack : SentBack s₀ h s t.serial sub t.stream t.delivery)

/-- The histories of all deliveries under way are known. -/
def Explained (s₀ : Session) (h : List Record) (s : Session) : Prop :=
  ∀ t ∈ s.tasks, ∃ sub, s.subscriptions[t.stream]? = some sub ∧ History s₀ h s sub t

section
variable {s₀ s s' t t' : Session} {before h : List Record} {d deed : Deed} {n : Nat}
  {sub : Subscription} {stream : Nat} {dl : Delivery} {id : String} {answer : Answer}

theorem Passes.here (run : Run (fun _ _ => True) s₀ h s) (m : Move s d s') :
    Passes s₀ h (h ++ [⟨d, s.since s'⟩]) s' s d s' := ⟨run, m, [], rfl, .start⟩

theorem Passes.next (p : Passes s₀ before h t s d s') (m : Move t deed t') :
    Passes s₀ before (h ++ [⟨deed, t.since t'⟩]) t' s d s' := by
  obtain ⟨after, rfl, run⟩ := p.goesOn
  exact ⟨p.reached, p.move, _, by rw [List.append_assoc, List.cons_append], run.next m trivial⟩

theorem Begun.next (b : Begun s₀ h t n sub stream dl id answer) (m : Move t deed t') :
    Begun s₀ (h ++ [⟨deed, t.since t'⟩]) t' n sub stream dl id answer := by
  obtain ⟨passes, handed, number, read⟩ := b
  exact .intro (passes.next m) handed number read

theorem SentBack.next (b : SentBack s₀ h t n sub stream dl) (m : Move t deed t') :
    SentBack s₀ (h ++ [⟨deed, t.since t'⟩]) t' n sub stream dl := by
  obtain ⟨passes, tells, begun, failed, left⟩ := b
  exact ⟨passes.next m, tells, begun, failed, left⟩

theorem History.next {task : Task} (b : History s₀ h t sub task) (m : Move t deed t') :
    History s₀ (h ++ [⟨deed, t.since t'⟩]) t' sub task := by
  cases b with
  | handling stage begun => exact .handling stage (begun.next m)
  | delayed stage manual sentBack => exact .delayed stage manual (sentBack.next m)

/-- A message that can be read is handed to its handler. -/
theorem arrive_begins (s : Session) (sub : Subscription) (stream : Nat) (message : Message)
    (tag : Option Nat) :
    (s.arrive sub stream message tag).tasks = s.tasks ∨
      ∃ t e, (s.arrive sub stream message tag).tasks = s.tasks ++ [t] ∧
        Envelope.decode sub.consumer.contract.payloadType message.body = .ok e ∧
        t.serial = s.broker.handedOver + 1 ∧ t.stream = stream ∧
        t.delivery = s.handed stream message tag ∧
        t.stage = .handling e.id (sub.consumer.turn (s.desk sub.ledger) e.payload).answer := by
  cases hd : Envelope.decode sub.consumer.contract.payloadType message.body with
  | error e => exact Or.inl (arrive_error s sub stream message tag hd).tasks
  | ok e =>
    exact Or.inr ⟨_, e, (arrive_ok s sub stream message tag hd).tasks, rfl, rfl, rfl, rfl, rfl⟩

theorem Explained.move (ex : Explained s₀ h s) (run : Run (fun _ _ => True) s₀ h s)
    (m : Move s d s') : Explained s₀ (h ++ [⟨d, s.since s'⟩]) s' := by
  have old : ∀ t ∈ s.tasks, ∃ sub, s'.subscriptions[t.stream]? = some sub ∧
      History s₀ (h ++ [⟨d, s.since s'⟩]) s' sub t := by
    intro t ht
    obtain ⟨sub, hsub, history⟩ := ex t ht
    exact ⟨sub, m.known hsub, history.next m⟩
  have here := Passes.here run m
  intro t ht
  cases m with
  | @arrive sub stream message tag hsub hopen =>
    rcases arrive_begins s sub stream message tag with
      hsame | ⟨t', e, hnew, hd, hn, hst, hdl, hstage⟩
    · exact old t (hsame ▸ ht)
    · rw [hnew] at ht
      rcases List.mem_append.mp ht with ht | ht
      · exact old t ht
      · cases List.mem_singleton.mp ht
        refine ⟨sub, here.move.known (hst ▸ hsub), .handling hstage ?_⟩
        rw [hst, hdl, hn]
        exact .intro here (Or.inl rfl) rfl hd
  | @again sub p hp hsub hopen =>
    rcases arrive_begins (s.takeReturned p) sub p.stream p.message none with
      hsame | ⟨t', e, hnew, hd, hn, hst, hdl, hstage⟩
    · exact old t (hsame ▸ ht)
    · rw [hnew] at ht
      rcases List.mem_append.mp ht with ht | ht
      · exact old t ht
      · cases List.mem_singleton.mp ht
        refine ⟨sub, here.move.known (hst ▸ hsub), .handling hstage ?_⟩
        rw [hst, hdl, hn]
        exact .intro (s := s) here (Or.inr rfl) rfl hd
  | @conclude sub t₀ id answer ht₀ hsub hstage =>
    rw [(conclude_effect s sub t₀ id answer).2.tasks] at ht
    rcases List.mem_append.mp ht with ht | ht
    · exact old t (dequeue_tasks_subset s t₀ ht)
    · split at ht
      · next hr =>
        cases List.mem_singleton.mp ht
        obtain ⟨sub', hsub', history⟩ := ex t₀ ht₀
        cases (hsub.symm.trans hsub' : some sub = some sub')
        obtain ⟨hfails, hmanual, hleft⟩ := Consumer.verdict_requeued hr
        refine ⟨sub, here.move.known hsub, .delayed rfl hmanual ?_⟩
        cases history with
        | delayed stage => rw [hstage] at stage; cases stage
        | handling stage begun =>
          obtain ⟨rfl, rfl⟩ := Stage.handling.inj (hstage.symm.trans stage)
          have hres : (s.conclude sub t₀ id answer).1 = .requeued :=
            (conclude_effect s sub t₀ id answer).1.trans hr
          rw [hres] at here ⊢
          exact ⟨here, conclude_tells s sub t₀ id answer, begun, hfails, hleft⟩
      · cases ht
  | @giveBack sub t₀ ht₀ hsub hstage =>
    rw [(giveBack_effect s sub t₀).tasks] at ht
    exact old t (dequeue_tasks_subset s t₀ ht)
  | lose => exact old t ht
  | close k => exact old t (close_tasks s k ▸ ht)
  | count ledger id call => exact old t (by cases call <;> exact ht)
  | aside ha => exact old t (ha.tasks ▸ ht)

theorem Run.explained (run : Run (fun _ _ => True) s₀ h s) (fresh : s₀.Fresh) :
    Explained s₀ h s := by
  induction run with
  | start =>
    intro t ht
    rw [fresh.tasks] at ht
    cases ht
  | next run m ok ih => exact ih.move run m

end

section
variable {s₀ s s' : Session} {h : List Record} {d : Deed} {n tag : Nat} {q : Request} {ok : Bool}
  {entry : Entry}

theorem mem_requests {entries : List Entry} (he : entry ∈ entries)
    (hq : entry.note.event.request? = some (q, ok)) : (q, ok) ∈ Entry.requests entries :=
  List.mem_filterMap.mpr ⟨entry, he, hq⟩

theorem mem_replies_ackOf? {k : Consumer} {dl : Delivery} {r : Resolution} {b : Broker}
    (h : (q, ok) ∈ b.replies (k.ackOf? dl r)) :
    k.contract.autoAck = false ∧ r ≠ .requeued ∧ q = .ack dl.tag false := by
  unfold Consumer.ackOf? at h
  split at h
  · cases h
  · next hn =>
    rw [Bool.or_eq_true, not_or] at hn
    refine ⟨by simpa using hn.1, fun e => hn.2 (by rw [e]; rfl), ?_⟩
    exact (Prod.mk.inj (List.mem_singleton.mp h)).1

/-- A hand-over makes no request but that to drop what cannot be read. -/
theorem arrive_asks {sub : Subscription} {stream : Nat} {message : Message} {tag' : Option Nat}
    (he : entry ∈ s.since (s.arrive sub stream message tag'))
    (hdelivery : entry.delivery = some (n, tag))
    (hq : entry.note.event.request? = some (q, ok)) :
    n = s.broker.handedOver + 1 ∧ sub.consumer.contract.autoAck = false ∧
      q = .ack (s.handed stream message tag').tag false ∧
      ∃ e, Envelope.decode sub.consumer.contract.payloadType message.body = .error e := by
  have hmem := mem_requests he hq
  have hn := ((arrive_tells s sub stream message tag' rfl).about entry he).2
  rw [hdelivery] at hn
  cases hd : Envelope.decode sub.consumer.contract.payloadType message.body with
  | error e =>
    rw [(arrive_error s sub stream message tag' hd).requests] at hmem
    obtain ⟨manual, -, hack⟩ := mem_replies_ackOf? hmem
    exact ⟨(Prod.mk.inj (Option.some.inj hn)).1, manual, hack, e, rfl⟩
  | ok e =>
    rw [(arrive_ok s sub stream message tag' hd).requests] at hmem
    cases hmem

theorem Explained.justified (ex : Explained s₀ h s) (m : Move s d s') (he : entry ∈ s.since s')
    (hdelivery : entry.delivery = some (n, tag))
    (hq : entry.note.event.request? = some (q, ok)) : Justified s₀ h s n d q := by
  have none : d.attends = false → Justified s₀ h s n d q := fun hd => by
    rw [m.since_aside hd entry he] at hdelivery
    cases hdelivery
  cases m with
  | @arrive sub stream message tag' hsub hopen =>
    obtain ⟨hn, manual, rfl, e, hd⟩ := arrive_asks he hdelivery hq
    exact .unread (Or.inl rfl) hn manual hd
  | @again sub p hp hsub hopen =>
    obtain ⟨hn, manual, rfl, e, hd⟩ := arrive_asks (s := s.takeReturned p) he hdelivery hq
    exact .unread (Or.inr rfl) hn manual hd
  | @conclude sub t id answer ht hsub hstage =>
    have hn := ((conclude_tells s sub t id answer).about entry he).2
    rw [hdelivery] at hn
    obtain ⟨rfl, -⟩ := Prod.mk.inj (Option.some.inj hn)
    have hmem := mem_requests he hq
    rw [(conclude_effect s sub t id answer).2.requests] at hmem
    obtain ⟨manual, hr, rfl⟩ := mem_replies_ackOf? hmem
    obtain ⟨sub', hsub', history⟩ := ex t ht
    cases (hsub.symm.trans hsub' : some sub = some sub')
    cases history with
    | delayed stage => rw [hstage] at stage; cases stage
    | handling stage begun =>
      obtain ⟨rfl, rfl⟩ := Stage.handling.inj (hstage.symm.trans stage)
      cases hf : answer.fails with
      | false => exact .passed manual begun hf
      | true => exact .exhausted manual begun hf ((Consumer.verdict_of_manual manual hr).2 hf)
  | @giveBack sub t ht hsub hstage =>
    have hn := ((giveBack_tells s sub t).about entry he).2
    rw [hdelivery] at hn
    obtain ⟨rfl, -⟩ := Prod.mk.inj (Option.some.inj hn)
    have hmem := mem_requests he hq
    have hmem' : (q, ok) ∈ s.broker.replies (some (.nack t.delivery.tag false true)) :=
      (giveBack_effect s sub t).requests ▸ hmem
    obtain ⟨rfl, -⟩ := Prod.mk.inj (List.mem_singleton.mp hmem')
    obtain ⟨sub', hsub', history⟩ := ex t ht
    cases (hsub.symm.trans hsub' : some sub = some sub')
    cases history with
    | handling stage => rw [hstage] at stage; cases stage
    | delayed _ manual sentBack => exact .sentBack manual sentBack
  | lose | close | count | aside => exact none rfl

/-- While a handler has its turn, nothing else is seen of its delivery. -/
theorem Begun.account {t : Task} {sub : Subscription} {id id' : String} {answer answer' : Answer}
    (b : Begun s₀ h s t.serial sub t.stream t.delivery id' answer') (fresh : s₀.Fresh)
    (hs : s.Sound) (ht : t ∈ s.tasks) (hstage : t.stage = .handling id answer) :
    ∃ payload, accountOf t.serial h = [.handled payload] := by
  obtain ⟨⟨reached, m, after, rfl, rest⟩, handed, number, -⟩ := b
  obtain ⟨sights, hp, hacc⟩ := progress_of_run fresh.sound reached m handed rest
  rw [← number] at hp hacc
  rw [hs.tasksOf_eq ht] at hp
  cases hp with
  | delayed _ _ stage => rw [hstage] at stage; cases stage
  | @handling e => exact ⟨e.payload, hacc⟩

theorem verdict_of_left {sub : Subscription} {id : String} {answer : Answer}
    (manual : sub.consumer.contract.autoAck = false) (failed : answer.fails = true)
    (left : (s.ledger sub.ledger).get id < sub.consumer.contract.maxRetry) :
    s.verdict sub id answer = .requeued := by
  by_contra hne
  have spent := (Consumer.verdict_of_manual manual hne).2 failed
  exact absurd left (UInt32.not_lt.mpr spent)

/-- A failed message with retries left stays. -/
theorem Move.keeps_failed {sub : Subscription} {stream : Nat} {dl : Delivery} {id : String}
    {answer : Answer} {r : Resolution} (m : Move s (.concluded sub stream dl id answer r) s')
    (manual : sub.consumer.contract.autoAck = false) (failed : answer.fails = true)
    (left : (s.ledger sub.ledger).get id < sub.consumer.contract.maxRetry) :
    r = .requeued ∧ Entry.requests (s.since s') = [] ∧
      ∃ t ∈ s'.tasks, t.stream = stream ∧ t.delivery = dl ∧ t.stage = .delayed := by
  have hr := verdict_of_left manual failed left
  refine ⟨m.verdict_eq.trans hr, ?_⟩
  cases m with
  | @conclude _ t =>
    have he := (conclude_effect s sub t id answer).2
    refine ⟨?_, s.delayedTask sub t, ?_, rfl, rfl, rfl⟩
    · rw [he.requests, hr, Consumer.ackOf?_requeued]
      rfl
    · rw [he.tasks, if_pos hr]
      exact List.mem_append_right _ (List.mem_singleton_self _)

/-- Each request about a delivery is justified: a message is acknowledged only if its body cannot be
read, its handler has succeeded or has called it malformed, or its handler has failed and there was
no retry left; it is given back only if its handler has failed and there were retries left. Nothing
is asked for while a handler has its turn, and no message with retries left is dropped because its
handler failed. -/
theorem requests_justified (fresh : s₀.Fresh) (run : Run (fun _ _ => True) s₀ h s)
    (m : Move s d s') :
    (∀ entry ∈ s.since s', ∀ n tag q ok, entry.delivery = some (n, tag) →
        entry.note.event.request? = some (q, ok) → Justified s₀ h s n d q) ∧
      (∀ t ∈ s.tasks, ∀ id answer, t.stage = .handling id answer →
        ∃ payload, accountOf t.serial h = [.handled payload]) ∧
      ∀ sub stream dl id answer r, d = .concluded sub stream dl id answer r →
        sub.consumer.contract.autoAck = false → answer.fails = true →
        (s.ledger sub.ledger).get id < sub.consumer.contract.maxRetry →
        r = .requeued ∧ Entry.requests (s.since s') = [] ∧
          ∃ t ∈ s'.tasks, t.stream = stream ∧ t.delivery = dl ∧ t.stage = .delayed := by
  have explained := run.explained fresh
  refine ⟨fun entry he n tag q ok hdelivery hq => explained.justified m he hdelivery hq, ?_, ?_⟩
  · intro t ht id answer hstage
    obtain ⟨sub, -, history⟩ := explained t ht
    cases history with
    | delayed stage => rw [hstage] at stage; cases stage
    | handling _ begun => exact begun.account fresh (run.sound fresh.sound) ht hstage
  · rintro sub stream dl id answer r rfl manual failed left
    exact m.keeps_failed manual failed left

end

set_option maxRecDepth 100000 in
theorem nack_justified : ∃ s s' h d,
    Run (fun _ _ => True) (Trial.session [Trial.subscription 1 2]) h s ∧ Move s d s' ∧
    ∃ entry ∈ s.since s', (entry.delivery = some (1, 1) ∧
      entry.note.event.request? = some (.nack 1 false true, true)) ∧
      Justified (Trial.session [Trial.subscription 1 2]) h s 1 d (.nack 1 false true) := by
  let sub := Trial.subscription 1 2
  let late := { Trial.task 1 0 Trial.failure with due := 1000, stage := .delayed }
  have fresh : (Trial.session [sub]).Fresh := ⟨rfl, rfl, rfl, rfl⟩
  have arrived := @Move.arrive (Trial.session [sub]) sub 0 Trial.message none rfl (by decide)
  have known := arrived.known (n := 0) rfl
  have failed := Move.conclude (t := Trial.task 1 0 Trial.failure) (by decide +kernel) known rfl
  let s := (((Trial.session [sub]).arrive sub 0 Trial.message none).conclude sub
    (Trial.task 1 0 Trial.failure) "i" Trial.failure).2
  have back := @Move.giveBack s sub late (by decide +kernel) (failed.known known) rfl
  have run : Run (fun _ _ => True) _ _ _ := (Run.start.next arrived trivial).next failed trivial
  have asked : ∃ entry ∈ s.since ((s.dequeue late).giveBack sub late),
      entry.delivery = some (1, 1) ∧
        entry.note.event.request? = some (.nack 1 false true, true) := by decide +kernel
  obtain ⟨entry, he, hdelivery, hq⟩ := asked
  exact ⟨s, _, _, _, run, back, entry, he, ⟨hdelivery, hq⟩,
    (requests_justified fresh run back).1 entry he 1 1 _ true hdelivery hq⟩

end Courier.Session
