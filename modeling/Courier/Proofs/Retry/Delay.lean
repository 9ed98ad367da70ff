import Courier.Proofs.Account.Justified
import Courier.Proofs.Session.Orderly

/-! The delay before a retry is exact. A delivery whose handler has failed and who has retries left
makes one request, just when its delay is over, whatever happens meanwhile. -/
namespace Courier

/-- The requests that entries tell of, each with its time and whether it succeeded. -/
def Entry.timed (entries : List Entry) : List (Nat × Request × Bool) :=
  entries.filterMap fun e => e.note.event.request?.map fun asked => (e.time, asked)

namespace Entry

theorem timed_append (log new : List Entry) : timed (log ++ new) = timed log ++ timed new :=
  List.filterMap_append

/-- Requests that are made at one time. -/
theorem timed_eq {entries : List Entry} {time : Nat} (h : ∀ e ∈ entries, e.time = time) :
    timed entries = (requests entries).map fun asked => (time, asked) := by
  unfold timed requests
  rw [List.map_filterMap]
  exact List.filterMap_congr fun e he => by rw [h e he]

/-- Requests are seen. -/
theorem timed_of_handled {entries : List Entry} {payload : Payload}
    (h : sights entries = [.handled payload]) : timed entries = [] := by
  refine List.filterMap_eq_nil_iff.mpr fun e he => ?_
  cases hv : e.note.event with
  | request r ok =>
    have hseen : Sight.asked r ok ∈ sights entries :=
      List.mem_filterMap.mpr ⟨e, he, by rw [hv]; rfl⟩
    rw [h] at hseen
    cases List.mem_singleton.mp hseen
  | _ => rfl

end Entry

namespace Session

/-- How far the delay of a delivery is: it waits and nothing has been asked of the broker, or its
message was given back just when it was due, and that is all. -/
inductive Delay (w : Task) : List Task → List (Nat × Request × Bool) → Prop
  | waiting : Delay w [w] []
  | over (ok : Bool) : Delay w [] [(w.due, .nack w.delivery.tag false true, ok)]

section
variable {s s' : Session} {h : List Record} {sub : Subscription} {t w : Task} {id : String}
  {answer : Answer}

theorem Tells.timed {serial tag : Nat} {sights : List Sight}
    (tells : s.Tells s' serial tag sights) :
    Entry.timed (s.since s') = (Entry.requests (s.since s')).map fun asked => (s.now, asked) :=
  Entry.timed_eq fun e he => (tells.about e he).1

theorem giveBack_timed (s : Session) (sub : Subscription) (t : Task) :
    ∃ ok, Entry.timed (s.since ((s.dequeue t).giveBack sub t)) =
      [(s.now, .nack t.delivery.tag false true, ok)] := by
  rw [(giveBack_tells s sub t).timed, (giveBack_effect s sub t).requests]
  exact ⟨_, rfl⟩

/-- A deed tells which delivery it is about, as long as no two have one tag. -/
theorem Tagged.due_eq (tagged : s.Tagged) (ht : t ∈ s.tasks)
    (punctual : s.Punctual (.gaveBack sub t.stream t.delivery)) : t.due = s.now := by
  obtain ⟨t', ht', -, hd, hdue⟩ := punctual
  have same : t' = t :=
    List.inj_on_of_nodup_map tagged.distinct ht' ht (congrArg Delivery.tag hd)
  rw [← same, hdue]

/-- A delay goes on until it is over, whatever happens meanwhile. -/
theorem Run.delay (run : Run InTime s h s') (hs : s.Sound) (tagged : s.Tagged) (hw : w ∈ s.tasks)
    (stage : w.stage = .delayed) :
    Delay w (s'.tasksOf w.serial) (Entry.timed (logOf w.serial h)) := by
  refine run.follow (P := fun tasks log => Delay w tasks (Entry.timed log)) hs (hs.numbered w hw)
    (hs.tasksOf_eq hw ▸ .waiting) ?_ ?_
  · intro g s₁ sub t id answer log _ _ _ _ _ handling hp
    generalize Entry.timed log = asked at hp
    cases hp
    rw [stage] at handling
    cases handling
  · intro g s₁ sub t log run₁ ok ht _ _ _ hp
    obtain ⟨nacked, asked⟩ := giveBack_timed s₁ sub t
    rw [Entry.timed_append, asked]
    generalize Entry.timed log = before at hp ⊢
    cases hp
    rw [← (run₁.tagged (fun _ _ ok => ok.1) tagged).due_eq ht ok.2]
    exact .over nacked

/-- Nothing has been asked of the broker about a delivery that waits for its handler. -/
theorem Run.unasked {allowed : Session → Deed → Prop} (run : Run allowed s h s') (fresh : s.Fresh)
    (ht : t ∈ s'.tasks) (stage : t.stage = .handling id answer) :
    Entry.timed (logOf t.serial h) = [] := by
  have run' : Run (fun _ _ => True) s h s' := run.mono fun _ _ _ => trivial
  obtain ⟨sub, -, history⟩ := run'.explained fresh t ht
  cases history with
  | delayed delayed => rw [stage] at delayed; cases delayed
  | handling _ begun =>
    obtain ⟨payload, account⟩ := begun.account fresh (run.sound fresh.sound) ht stage
    exact Entry.timed_of_handled ((accountOf_eq t.serial h).symm.trans account)

/-- A message that is given back changes no ledger. -/
theorem Move.ledgers_of_gaveBack {stream : Nat} {dl : Delivery}
    (m : Move s (.gaveBack sub stream dl) s') : s'.ledgers = s.ledgers := by
  cases m with
  | giveBack => exact (giveBack_effect ..).ledgers

/-- A failed delivery with retries left begins its delay, and is counted. -/
theorem conclude_delays (verdict : s.verdict sub id answer = .requeued) :
    s.delayedTask sub t ∈ (s.conclude sub t id answer).2.tasks ∧
      (s.conclude sub t id answer).2.ledgers =
        s.ledgers.set sub.ledger ((s.ledger sub.ledger).increment id) ∧
      Entry.timed (s.since (s.conclude sub t id answer).2) = [] := by
  have he := (conclude_effect s sub t id answer).2
  refine ⟨delayedTask_mem ((conclude_effect s sub t id answer).1.trans verdict), ?_, ?_⟩
  · rw [he.ledgers, verdict]
    rfl
  · rw [(conclude_tells s sub t id answer).timed, he.requests, verdict, Consumer.ackOf?_requeued]
    rfl

end

/-- The delay before a retry is exact and cannot be cut short. Whatever is asked of a session whose
broker numbers the deliveries, it gets there by moves in time, and at the end no delivery is due. In
such a run, a failure with retries left is counted at once. The delivery waits then, while nothing
is asked of the broker about it, or its message was given back just when the retry interval was
over, which is all that was asked; a message that is given back changes no ledger. No wait is longer
than the longest. -/
theorem given_back_when_due {s₀ : Session} (fresh : s₀.Fresh) (supplied : s₀.Supplied) :
    (∀ commands : List Command, (∀ c ∈ commands, Untagged c) →
      let s := commands.foldl (fun s c => (s.step c).2) s₀
      (∃ h, Run InTime s₀ h s ∧ journalOf h = s₀.told commands) ∧ ∀ t ∈ s.tasks, s.now < t.due) ∧
    ∀ {before after : List Record} {s₁ s : Session} {sub : Subscription} {t : Task} {id : String}
      {answer : Answer},
      let s₂ := (s₁.conclude sub t id answer).2
      let w := { t with
        due := s₁.now + min sub.consumer.contract.retryInterval longestWait, stage := .delayed }
      Run InTime s₀ before s₁ → t ∈ s₁.tasks → s₁.subscriptions[t.stream]? = some sub →
      t.stage = .handling id answer → sub.consumer.contract.autoAck = false →
      answer.fails = true → (s₁.ledger sub.ledger).get id < sub.consumer.contract.maxRetry →
      Run InTime s₂ after s →
      (s₂.now = s₁.now ∧
        s₂.ledgers = s₁.ledgers.set sub.ledger ((s₁.ledger sub.ledger).increment id)) ∧
      Delay w (s.tasksOf t.serial) (Entry.timed (logOf t.serial
        (before ++ ⟨.concluded sub t.stream t.delivery id answer .requeued, s₁.since s₂⟩ ::
          after))) ∧
      ∀ s₃ s₄ sub', Move s₃ (.gaveBack sub' t.stream t.delivery) s₄ → s₄.ledgers = s₃.ledgers := by
  constructor
  · intro commands untagged
    have none : ∀ t, t ∉ s₀.tasks := fun t => fresh.tasks ▸ List.not_mem_nil
    obtain ⟨h, s, done, -, ahead⟩ := steps_byClock (fresh.orderly supplied) commands untagged
    have run : Run InTime s₀ h s := done.run.mono fun _ _ hd => hd.2
    rw [done.ends]
    exact ⟨⟨h, run, done.told⟩, ahead fun t ht => absurd ht (none t)⟩
  · intro before after s₁ s sub t id answer s₂ w run ht hsub stage manual failed left run'
    have verdict := verdict_of_left manual failed left
    have hs := run.sound fresh.sound
    have tagged := run.tagged (fun _ _ ok => ok.1) fresh.tagged
    obtain ⟨waits, counted, quiet⟩ := conclude_delays (t := t) verdict
    refine ⟨⟨conclude_now s₁ sub t id answer, counted⟩, ?_, ?_⟩
    · have delay := run'.delay (hs.conclude id answer ht) (tagged.conclude id answer ht) waits rfl
      rw [← List.singleton_append, logOf_append, logOf_append,
        (conclude_tells s₁ sub t id answer).log_self, Entry.timed_append, Entry.timed_append,
        run.unasked fresh ht stage, quiet]
      exact delay
    · exact fun _ _ _ m => m.ledgers_of_gaveBack

set_option maxRecDepth 100000 in
theorem failure_waits_a_second :
    let sub := Trial.subscription 1 2
    let t := Trial.task 1 0 Trial.failure
    let commands : List Command := [.deliver 0 [(Trial.message, none)], .settle]
    (∃ h s, Run InTime (Trial.session [sub]) h s ∧
      journalOf h = (Trial.session [sub]).told commands) ∧
    ∃ before s₁ after s, Run InTime (Trial.session [sub]) before s₁ ∧ s₁.now = 0 ∧
      Run InTime (s₁.conclude sub t "i" Trial.failure).2 after s ∧ s.tasksOf 1 = [] ∧
      Delay { t with due := s₁.now + min 1000 longestWait, stage := .delayed } (s.tasksOf 1)
        (Entry.timed (logOf 1 (before ++ ⟨.concluded sub 0 t.delivery "i" Trial.failure .requeued,
          s₁.since (s₁.conclude sub t "i" Trial.failure).2⟩ :: after))) := by
  let sub := Trial.subscription 1 2
  let t := Trial.task 1 0 Trial.failure
  let late : Task := { t with due := 1000, stage := .delayed }
  have fresh : (Trial.session [sub]).Fresh := ⟨rfl, rfl, rfl, rfl⟩
  have supplied : (Trial.session [sub]).Supplied := ⟨by unfold Backed; decide, by decide⟩
  obtain ⟨atCommands, inRuns⟩ := given_back_when_due fresh supplied
  obtain ⟨⟨h, told⟩, -⟩ := atCommands [.deliver 0 [(Trial.message, none)], .settle] fun c hc => by
    rcases List.mem_cons.mp hc with rfl | hc
    · exact fun m hm => by rw [List.mem_singleton.mp hm]
    · rw [List.mem_singleton.mp hc]
      trivial
  let s₁ := (Trial.session [sub]).arrive sub 0 Trial.message none
  let s₂ := (s₁.conclude sub t "i" Trial.failure).2
  have arrived := @Move.arrive (Trial.session [sub]) sub 0 Trial.message none rfl (by decide)
  have run : Run InTime _ _ s₁ :=
    Run.start.next arrived ⟨fun t ht => absurd ht List.not_mem_nil, trivial⟩
  have failed := Move.conclude (t := t) (by decide +kernel) (arrived.known (n := 0) rfl) rfl
  have waited : Run InTime s₂ _ { s₂ with now := 1000 } :=
    Run.single (.aside (aside_clock 1000)) ⟨trivial, trivial⟩
  have back := @Move.giveBack { s₂ with now := 1000 } sub late (by decide +kernel)
    (failed.known (arrived.known rfl)) rfl
  have after := waited.next back ⟨trivial, late, by decide +kernel, rfl, rfl, rfl⟩
  have out := inRuns run (t := t) (by decide +kernel) (arrived.known rfl) rfl rfl rfl
    (by decide +kernel) after
  exact ⟨⟨h, _, told⟩, _, _, _, _, run, by decide +kernel, after, by decide +kernel, out.2.1⟩

set_option maxRecDepth 100000 in
/-- A retry interval that is longer than the longest wait is not waited for to its end. -/
theorem longest_wait_ends :
    let interval := 18446744073709551615
    let patient : Subscription :=
      { Trial.subscription 1 2 with consumer.contract.retryInterval := interval }
    let commands : List Command := [.deliver 0 [(Trial.message, none)], .advance interval]
    let log := ((Trial.session [patient]).told commands).filter (Entry.isAbout 1)
    (log.filterMap fun e => match e.note.event with
      | .outcome _ failure => some (e.time, failure)
      | _ => none) = [(0, some "no")] ∧
      Entry.timed log = [(946080000000, .nack 1 false true, true)] ∧
      946080000000 ≠ 0 + interval := by
  decide +kernel

end Session
end Courier
