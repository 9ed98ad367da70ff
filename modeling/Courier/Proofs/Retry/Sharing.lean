import Courier.Proofs.Retry.Split
import Courier.Proofs.Retry.Story
import Courier.Proofs.Session.Pending
import Courier.Proofs.Session.Schedule

/-! Two queues on which one message waits, while a single ledger counts its retries for both. -/
namespace Courier

section
variable {sub : Subscription} {stream : Nat} {id : String} {place place' : Place} {r : Record}

theorem Leg.ne_resolved (leg : Leg sub stream id place r place') : place ≠ .resolved := by
  cases leg <;> exact Place.noConfusion

theorem Leg.sendsBack (leg : Leg sub stream id place r place') :
    r.deed.sendsBack sub.ledger id = r.deed.isRetry := by
  cases leg <;> simp [Deed.sendsBack]

/-- A message is forgotten when it is resolved. -/
theorem Leg.forgets (leg : Leg sub stream id place r place') :
    r.deed.forgets sub.ledger id = true ↔ place' = .resolved := by
  cases leg with
  | @resolve _ _ r _ hn hl => cases r <;> simp [Deed.forgets] at hn hl ⊢
  | _ => simp [Deed.forgets]

theorem Course.sendsBack {g : List Record} (course : Course sub stream id g place) :
    ∀ r ∈ g, r.deed.sendsBack sub.ledger id = r.deed.isRetry := by
  induction course with
  | start => exact fun r hr => absurd hr List.not_mem_nil
  | next _ leg ih =>
    intro r hr
    rcases List.mem_append.mp hr with hr | hr
    · exact ih r hr
    · rw [List.mem_singleton.mp hr]
      exact leg.sendsBack

/-- A message that has not arrived is nowhere. -/
theorem Course.nowhere {g : List Record} (course : Course sub stream id g place)
    {P : Message → Bool} (about : ∀ r ∈ g, r.deed.isAbout stream P = true)
    (hg : g.countP (·.deed.isArrival stream P) = 0) : place = .nowhere := by
  induction course with
  | start => rfl
  | @next g place r place' course leg ih =>
    rw [List.countP_append] at hg
    have hplace := ih (fun r' hr' => about r' (List.mem_append_left _ hr')) (by omega)
    subst hplace
    have habout := about r (by simp)
    cases leg with
    | arrive =>
      have hone : Deed.isArrival stream P (.arrived sub stream _) = true := habout
      simp [hone] at hg

end

namespace Session

/-- The broker keeps its word, two streams stay open, nobody but deliveries touches the count of a
message, and what is counted with it arrives on these streams only. -/
def Both (a b ledger : Nat) (id : String) (s : Session) (d : Deed) : Prop :=
  s.FreshTag d ∧ d ≠ .closed a ∧ d ≠ .closed b ∧ d ≠ .counted ledger id ∧
    ∀ sub n d', d = .arrived sub n d' → sub.Carries ledger id d'.message → n ∈ [a, b]

/-- The records of the messages of an id on a stream. -/
def recordsOf (sub : Subscription) (stream : Nat) (id : String) (h : List Record) : List Record :=
  h.filter fun r => r.deed.isAbout stream (sub.reads id)

/-- How often a message of an id arrives at a stream from outside. -/
def arrivals (sub : Subscription) (stream : Nat) (id : String) (h : List Record) : Nat :=
  h.countP fun r => r.deed.isArrival stream (sub.reads id)

/-- The retries of the messages of an id on a stream. -/
def isOwn (sub : Subscription) (stream : Nat) (id : String) (r : Record) : Bool :=
  r.deed.isRetry && r.deed.isAbout stream (sub.reads id)

section
variable {s s' : Session} {d : Deed} {sub : Subscription} {stream : Nat} {id : String}
  {h : List Record} {r : Record} {place : Place}

theorem recordsOf_append :
    recordsOf sub stream id (h ++ [r]) = recordsOf sub stream id h ++
      if r.deed.isAbout stream (sub.reads id) then [r] else [] := by
  unfold recordsOf
  rw [List.filter_append, List.filter_singleton]
  cases r.deed.isAbout stream (sub.reads id) <;> rfl

theorem sentBack_recordsOf :
    sentBack (recordsOf sub stream id h) = h.countP (isOwn sub stream id) := by
  unfold sentBack recordsOf isOwn
  rw [List.countP_filter]

/-- Before a message has arrived it is nowhere. -/
theorem recordsOf_nowhere (course : Course sub stream id (recordsOf sub stream id h) place)
    (hn : arrivals sub stream id h = 0) : place = .nowhere := by
  refine course.nowhere (P := sub.reads id) (fun r hr => (List.mem_filter.mp hr).2) ?_
  unfold recordsOf
  unfold arrivals at hn
  rw [List.countP_filter]
  refine Nat.le_zero.mp (hn ▸ List.countP_mono_left fun r _ hr => ?_)
  simp only [Bool.and_eq_true] at hr
  exact hr.1

/-- A move takes the message of a stream one leg further if it is about it. -/
theorem Steady.onward (steady : s.Steady sub stream)
    (course : Course sub stream id (recordsOf sub stream id h) place)
    (holds : place.Holds s sub stream id) (m : Move s d s')
    (once : arrivals sub stream id (h ++ [⟨d, s.since s'⟩]) ≤ 1) :
    ∃ place', Course sub stream id (recordsOf sub stream id (h ++ [⟨d, s.since s'⟩])) place' ∧
      place'.Holds s' sub stream id ∧
      (d.isAbout stream (sub.reads id) = false ∧ place' = place ∨
        d.isAbout stream (sub.reads id) = true ∧
          Leg sub stream id place ⟨d, s.since s'⟩ place') := by
  have first : d.isArrival stream (sub.reads id) = true → place = .nowhere := by
    intro ha
    have hone : arrivals sub stream id [⟨d, s.since s'⟩] = 1 := by simp [arrivals, ha]
    refine recordsOf_nowhere course ?_
    unfold arrivals at once hone ⊢
    rw [List.countP_append] at once
    omega
  rcases holds.move steady m first with ⟨hn, holds'⟩ | ⟨hp, place', leg, holds'⟩
  · refine ⟨place, ?_, holds', Or.inl ⟨hn, rfl⟩⟩
    rw [recordsOf_append, if_neg (by simp [hn]), List.append_nil]
    exact course
  · refine ⟨place', ?_, holds', Or.inr ⟨hp, leg⟩⟩
    rw [recordsOf_append, if_pos hp]
    exact .next course leg

end

/-- What holds of the messages of an id on two manual-ack subscriptions after the records `h`. -/
structure Sharing (A B : Subscription) (a b : Nat) (id : String) (h : List Record)
    (placeA placeB : Place) (s : Session) : Prop where
  steadyA : s.Steady A a
  steadyB : s.Steady B b
  bound : A.ledger < s.ledgers.length
  confined : s.Confined A.ledger id [a, b]
  courseA : Course A a id (recordsOf A a id h) placeA
  courseB : Course B b id (recordsOf B b id h) placeB
  holdsA : placeA.Holds s A a id
  holdsB : placeB.Holds s B b id
  count : ((s.ledger A.ledger).get id).toNat = retriesSince A.ledger id h
  shared : placeA ≠ .resolved → Shared A.ledger id (isOwn A a id)
    A.consumer.contract.maxRetry.toNat (placeB = .resolved) h

section
variable {s s' : Session} {d : Deed} {A B : Subscription} {a b : Nat} {id : String}
  {h : List Record} {placeA placeB placeA' placeB' : Place}

/-- Deliveries of other messages do not count. -/
theorem Sharing.uncounted (sh : Sharing A B a b id h placeA placeB s) (m : Move s d s')
    (hA : d.isAbout a (A.reads id) = false) (hB : d.isAbout b (B.reads id) = false) :
    d.sendsBack A.ledger id = false ∧ d.forgets A.ledger id = false := by
  cases d with
  | concluded sub n dl id' answer r =>
    by_cases hc : sub.ledger = A.ledger ∧ id' = id
    · exfalso
      obtain ⟨hl, rfl⟩ := hc
      obtain ⟨hmem, hsub, hid⟩ := (hl ▸ sh.confined).concluded sh.steadyA.sound m
      rcases List.mem_pair.mp hmem with rfl | rfl
      · rw [sh.steadyA.known] at hsub
        simp [Deed.isAbout, Subscription.reads, Option.some.inj hsub, hid] at hA
      · rw [sh.steadyB.known] at hsub
        simp [Deed.isAbout, Subscription.reads, Option.some.inj hsub, hid] at hB
    · constructor
      · simp only [Deed.sendsBack, decide_eq_false_iff_not]
        exact fun he => hc ⟨he.1, he.2.1⟩
      · simp only [Deed.forgets, decide_eq_false_iff_not]
        exact fun he => hc ⟨he.1, he.2.1⟩
  | _ => exact ⟨rfl, rfl⟩

theorem isAbout_ne {P Q : Message → Bool} (hab : a ≠ b) (hA : d.isAbout a P = true) :
    d.isAbout b Q = false := by
  cases d with
  | arrived _ n dl | returned _ n dl | concluded _ n dl | gaveBack _ n dl =>
    simp only [Deed.isAbout, Bool.and_eq_true, decide_eq_true_eq] at hA
    simp [Deed.isAbout, hA.1, hab]
  | _ => rfl

/-- A leg of the first message: a retry counts if the limit allows it. -/
theorem Sharing.legA (sh : Sharing A B a b id h placeA placeB s) (m : Move s d s')
    (hA : d.isAbout a (A.reads id) = true) {entries : List Entry}
    (leg : Leg A a id placeA ⟨d, entries⟩ placeA') (hn : placeA' ≠ .resolved) :
    Shared A.ledger id (isOwn A a id) A.consumer.contract.maxRetry.toNat (placeB = .resolved)
      (h ++ [⟨d, entries⟩]) := by
  have shared := sh.shared leg.ne_resolved
  have hs := leg.sendsBack
  have hown : isOwn A a id ⟨d, entries⟩ = d.isRetry := by simp [isOwn, hA]
  cases hr : d.isRetry with
  | true =>
    refine shared.retry (hs.trans hr) (hown.trans hr) ?_
    rw [← sh.count]
    cases leg with
    | sendBack => exact (Consumer.verdict_requeued m.verdict_eq.symm).2.2
    | resolve => exact absurd rfl hn
    | _ => cases hr
  | false =>
    refine shared.neutral (hs.trans hr) ?_ (hown.trans hr)
    rw [Bool.eq_false_iff]
    exact fun hf => hn (leg.forgets.mp hf)

/-- A leg of the second message: it counts on the same ledger. -/
theorem Sharing.legB (sh : Sharing A B a b id h placeA placeB s) (hl : B.ledger = A.ledger)
    (hA : d.isAbout a (A.reads id) = false) {entries : List Entry}
    (leg : Leg B b id placeB ⟨d, entries⟩ placeB') (hn : placeA ≠ .resolved) :
    Shared A.ledger id (isOwn A a id) A.consumer.contract.maxRetry.toNat (placeB' = .resolved)
      (h ++ [⟨d, entries⟩]) := by
  have shared := sh.shared hn
  have hs := leg.sendsBack
  have hf := leg.forgets
  rw [hl] at hs hf
  have hown : isOwn A a id ⟨d, entries⟩ = false := by simp [isOwn, hA]
  by_cases hp : placeB' = .resolved
  · exact (shared.forget (hf.mpr hp) hown).congr (iff_of_true trivial hp)
  · have hended : placeB = .resolved ↔ placeB' = .resolved := iff_of_false leg.ne_resolved hp
    refine Shared.congr ?_ hended
    cases hr : d.isRetry with
    | true => exact shared.foreign (hs.trans hr) hown leg.ne_resolved
    | false =>
      refine shared.neutral (hs.trans hr) ?_ hown
      rw [Bool.eq_false_iff]
      exact fun he => hp (hf.mp he)

theorem Sharing.move (sh : Sharing A B a b id h placeA placeB s) (hab : a ≠ b)
    (hl : B.ledger = A.ledger) (m : Move s d s') (ok : Both a b A.ledger id s d)
    (onceA : arrivals A a id (h ++ [⟨d, s.since s'⟩]) ≤ 1)
    (onceB : arrivals B b id (h ++ [⟨d, s.since s'⟩]) ≤ 1) :
    ∃ placeA' placeB', Sharing A B a b id (h ++ [⟨d, s.since s'⟩]) placeA' placeB' s' := by
  obtain ⟨fresh, hca, hcb, hcount, harr⟩ := ok
  obtain ⟨placeA', courseA, holdsA, alternA⟩ := sh.steadyA.onward sh.courseA sh.holdsA m onceA
  obtain ⟨placeB', courseB, holdsB, alternB⟩ := sh.steadyB.onward sh.courseB sh.holdsB m onceB
  have count := m.get_retriesSince sh.bound hcount sh.count (s.since s')
  generalize s.since s' = entries at *
  refine ⟨placeA', placeB', sh.steadyA.move m fresh hca, sh.steadyB.move m fresh hcb,
    by rw [m.ledgers_length]; exact sh.bound,
    sh.confined.move sh.steadyA.sound sh.steadyA.tagged m harr, courseA, courseB, holdsA, holdsB,
    count, fun hn => ?_⟩
  rcases alternA with ⟨hA, rfl⟩ | ⟨hA, leg⟩
  · rcases alternB with ⟨hB, rfl⟩ | ⟨hB, leg⟩
    · obtain ⟨hs, hf⟩ := sh.uncounted m hA hB
      exact (sh.shared hn).neutral hs hf (by simp [isOwn, hA])
    · exact sh.legB hl hA leg hn
  · rcases alternB with ⟨hB, rfl⟩ | ⟨hB, -⟩
    · exact sh.legA m hA leg hn
    · rw [isAbout_ne hab hA] at hB
      cases hB

theorem Sharing.run (start : Sharing A B a b id [] .nowhere .nowhere s) (hab : a ≠ b)
    (hl : B.ledger = A.ledger) (run : Run (Both a b A.ledger id) s h s')
    (onceA : arrivals A a id h ≤ 1)
    (onceB : arrivals B b id h ≤ 1) :
    ∃ placeA placeB, Sharing A B a b id h placeA placeB s' := by
  induction run with
  | start => exact ⟨_, _, start⟩
  | next _ m ok ih =>
    obtain ⟨placeA, placeB, sh⟩ := ih
      (Nat.le_trans (List.sublist_append_left _ _).countP_le onceA)
      (Nat.le_trans (List.sublist_append_left _ _).countP_le onceB)
    exact sh.move hab hl m ok onceA onceB

theorem Sharing.own_sendsBack (sh : Sharing A B a b id h placeA placeB s) :
    ∀ r ∈ h, isOwn A a id r = true → r.deed.sendsBack A.ledger id = true := by
  intro r hr hown
  unfold isOwn at hown
  simp only [Bool.and_eq_true] at hown
  rw [sh.courseA.sendsBack r (List.mem_filter.mpr ⟨hr, hown.2⟩)]
  exact hown.1

/-- The attempts at a message that is dropped are the retries and one more. -/
theorem Sharing.attempts_eq (sh : Sharing A B a b id h placeA placeB s) {dl : Delivery}
    {answer : Answer} (drop : Move s (.concluded A a dl id answer .exhausted) s')
    (once : arrivals A a id h ≤ 1) :
    placeA ≠ .resolved ∧
      attempts (recordsOf A a id (h ++ [⟨.concluded A a dl id answer .exhausted, s.since s'⟩])) =
        h.countP (isOwn A a id) + 1 := by
  have hno : arrivals A a id (h ++ [⟨.concluded A a dl id answer .exhausted, s.since s'⟩]) ≤ 1 := by
    unfold arrivals at once ⊢
    rw [List.countP_append]
    exact once
  obtain ⟨place, course, -, alter⟩ :=
    sh.steadyA.onward sh.courseA sh.holdsA drop hno
  obtain ⟨-, -, hid⟩ := sh.confined.concluded sh.steadyA.sound drop
  have habout : Deed.isAbout a (A.reads id) (.concluded A a dl id answer .exhausted) = true := by
    simp [Deed.isAbout, Subscription.reads, hid]
  rcases alter with ⟨hn, -⟩ | ⟨-, leg⟩
  · rw [habout] at hn
    cases hn
  · refine ⟨leg.ne_resolved, ?_⟩
    have hplace : place = .resolved := leg.forgets.mp (by simp [Deed.forgets])
    subst hplace
    obtain ⟨past, tag, failed, last, fin⟩ := course.told
    have hsent := fin.sentBack
    rw [sentBack_recordsOf, List.countP_append] at hsent
    rw [fin.attempts, ← hsent]
    simp [isOwn]

/-- A message that waits on two queues with one ledger is handled once for each retry that its queue
allows and once more before it is dropped there just in case the ledger counts these retries in one
go: the other queue has no part in the count from the first of them to the last, and does not make
the ledger forget them. -/
theorem dropped_on_limit_iff {s₀ s s' s'' : Session} {h₀ h : List Record} {A B : Subscription}
    {a b : Nat} {id : String} {dl : Delivery} {answer : Answer} (fresh : s₀.Fresh)
    (before : Run FreshTag s₀ h₀ s) (redelivers : s.broker.redelivers = true)
    (acks : s.broker.Grants .ack) (nacks : s.broker.Grants .nack)
    (bound : A.ledger < s.ledgers.length) (one : B.ledger = A.ledger) (hab : a ≠ b)
    (knownA : s.subscriptions[a]? = some A) (knownB : s.subscriptions[b]? = some B)
    (openA : s.broker.isOpen a = true) (openB : s.broker.isOpen b = true)
    (manualA : A.consumer.contract.autoAck = false) (manualB : B.consumer.contract.autoAck = false)
    (new : (s.ledger A.ledger).count? id = none) (alone : s.Confined A.ledger id [])
    (run : Run (Both a b A.ledger id) s h s') (onceA : arrivals A a id h ≤ 1)
    (onceB : arrivals B b id h ≤ 1) (drop : Move s' (.concluded A a dl id answer .exhausted) s'') :
    attempts (recordsOf A a id (h ++ [⟨.concluded A a dl id answer .exhausted, s'.since s''⟩])) =
        A.consumer.contract.maxRetry.toNat + 1 ↔
      InOneGo A.ledger id (isOwn A a id) A.consumer.contract.maxRetry.toNat h := by
  have sound := before.sound fresh.sound
  have tagged := before.tagged (fun _ _ ok => ok) fresh.tagged
  have steadyA : s.Steady A a :=
    ⟨⟨sound, tagged, acks, nacks, redelivers, knownA, openA⟩, manualA⟩
  have steadyB : s.Steady B b :=
    ⟨⟨sound, tagged, acks, nacks, redelivers, knownB, openB⟩, manualB⟩
  have start : Sharing A B a b id [] .nowhere .nowhere s := by
    refine ⟨steadyA, steadyB, bound, fun n m hm hc => absurd (alone n m hm hc) List.not_mem_nil,
      .start, .start, steadyA.done alone rfl, steadyB.done alone one, ?_, fun _ => ?_⟩
    · unfold Ledger.get
      rw [new]
      rfl
    · exact Shared.start.congr (iff_of_false not_false Place.noConfusion)
  obtain ⟨placeA, placeB, sh⟩ := start.run hab one run onceA onceB
  obtain ⟨hn, hatt⟩ := sh.attempts_eq drop onceA
  have hlimit := Consumer.verdict_exhausted drop.verdict_eq.symm
  have hreached : A.consumer.contract.maxRetry.toNat ≤ retriesSince A.ledger id h := by
    rw [← sh.count]
    exact hlimit
  rw [hatt, Nat.add_right_cancel_iff]
  exact (sh.shared hn).countP_eq_iff sh.own_sendsBack hreached

end

set_option maxRecDepth 100000 in
/-- A message that fails on two queues is dropped early: the ledger does not count its retries in
one go. -/
theorem dropped_early : ∃ (s s' s'' : Session) (h : List Record) (d : Deed) (dl : Delivery),
    Run (Both 0 1 0 "i") s h s' ∧ Move s' d s'' ∧
    d = .concluded (Trial.subscription 9 2) 0 dl "i" Trial.failure .exhausted ∧
    attempts (recordsOf (Trial.subscription 9 2) 0 "i" (h ++ [⟨d, s'.since s''⟩])) = 2 ∧
    ¬ InOneGo 0 "i" (isOwn (Trial.subscription 9 2) 0 "i") 2 h := by
  let sub := Trial.subscription 9 2
  have arrived := @Move.arrive (Trial.session [sub, sub]) sub 0 Trial.message none rfl (by decide)
  have known₀ := arrived.known (n := 0) rfl
  have known₁ := arrived.known (n := 1) rfl
  have other := Move.arrive Trial.message none known₁ (by decide +kernel)
  have known₀ := other.known known₀
  have known₁ := other.known known₁
  have failed := Move.conclude (t := Trial.task 1 0 Trial.failure) (by decide +kernel) known₀ rfl
  have known₀ := failed.known known₀
  have known₁ := failed.known known₁
  have counted := Move.conclude (t := Trial.task 2 1 Trial.failure) (by decide +kernel) known₁ rfl
  have known₀ := counted.known known₀
  have back := Move.giveBack
    (t := { Trial.task 1 0 Trial.failure with due := 1000, stage := .delayed })
    (by decide +kernel) known₀ rfl
  have known₀ := back.known known₀
  have again := Move.again (p := ⟨1, 0, Trial.message⟩) (by decide +kernel) known₀
    (by decide +kernel)
  have known₀ := again.known known₀
  have drop := Move.concludes (t := Trial.task 3 0 Trial.failure) (r := .exhausted)
    (by decide +kernel) known₀ rfl (by decide +kernel)
  have granted : ∀ rpc, (Trial.session [sub, sub]).broker.Grants rpc := fun _ _ h =>
    absurd h List.not_mem_nil
  have quiet : ∀ {s : Session} {d : Deed}, s.FreshTag d → d ≠ .closed 0 → d ≠ .closed 1 →
      d ≠ .counted 0 "i" → (∀ sub n d', d = .arrived sub n d' → n ∈ [0, 1]) →
      Both 0 1 0 "i" s d :=
    fun fresh hA hB hc harr => ⟨fresh, hA, hB, hc, fun sub n d' hd _ => harr sub n d' hd⟩
  have run : Run (Both 0 1 0 "i") _ _ _ :=
    ((((((Run.start.next arrived
      (quiet (by decide) (by simp) (by simp) (by simp) (by simp))).next other
      (quiet (by decide +kernel) (by simp) (by simp) (by simp) (by simp))).next failed
      (quiet trivial (by simp) (by simp) (by simp) (by simp))).next counted
      (quiet trivial (by simp) (by simp) (by simp) (by simp))).next back
      (quiet trivial (by simp) (by simp) (by simp) (by simp))).next again
      (quiet (by decide +kernel) (by simp) (by simp) (by simp) (by simp)))
  have limit_iff := dropped_on_limit_iff (a := 0) (b := 1) ⟨rfl, rfl, rfl, rfl⟩ .start rfl
    (granted .ack) (granted .nack) (by decide) rfl (by decide) rfl rfl (by decide) (by decide) rfl
    rfl (by decide +kernel) (fun _ _ hm _ => absurd hm List.not_mem_nil) run (by decide +kernel)
    (by decide +kernel) drop
  refine ⟨_, _, _, _, _, _, run, drop, rfl, ?_, fun go => absurd (limit_iff.mpr go) ?_⟩
  · decide +kernel
  · decide +kernel

end Session

namespace Trial

/-- A contract on an exchange that copies each message to all its queues. -/
def onFeed (queue : String) (limit : UInt32) (answer : Answer) : Contract :=
  { contract 0 limit with
    exchange := { Exchange.named "feed" with kind := .fanout }
    queueName := queue
    handler := ⟨fun _ _ => ⟨0, answer⟩, fun _ => ⟨0, .ok ()⟩, true⟩ }

/-- How often a message is handled on the first of two queues that get it. -/
def handlings (first second : Contract) : Nat :=
  (Session.told { session [] with dispatchers := [{ ledger := 0 }], broker.routes := true }
    [.register "first" first 0, .register "second" second 0,
      .publish "first" first true [] (.text "x"), .settle]).countP fun e =>
    match e.note.event with
    | .spanOpened name _ => name == first.address "dev"
    | _ => false

end Trial

set_option maxRecDepth 100000 in
/-- A message that is always failed on its queue is handled more often than its limit says once it
succeeds on another queue, and less often if it fails there. -/
theorem Session.limit_of_other_queue :
    (Trial.onFeed "a" 1 Trial.failure).maxRetry.toNat + 1 <
      Trial.handlings (Trial.onFeed "a" 1 Trial.failure) (Trial.onFeed "b" 1 .done) ∧
    Trial.handlings (Trial.onFeed "a" 2 Trial.failure) (Trial.onFeed "b" 2 Trial.failure) <
      (Trial.onFeed "a" 2 Trial.failure).maxRetry.toNat + 1 := by
  decide +kernel

end Courier
