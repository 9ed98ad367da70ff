import Courier.Proofs.Retry.Story
import Courier.Proofs.Session.Orderly
import Mathlib.Data.ENat.Lattice

/-! How often a message is handled that no other delivery shares its count with. -/
namespace Courier

/-- The number of the first attempt, counted from one, that does not fail. -/
noncomputable def firstPass (answers : ℕ → Answer) : ℕ∞ :=
  ⨅ j : {j // (answers j).fails = false}, (j : ℕ∞) + 1

theorem le_firstPass {answers : ℕ → Answer} {n : ℕ} (h : ∀ j < n, (answers j).fails = true) :
    (n : ℕ∞) + 1 ≤ firstPass answers := by
  apply le_iInf
  rintro ⟨j, hj⟩
  have hn : n ≤ j := by
    by_contra hlt
    rw [h j (by omega)] at hj
    cases hj
  exact_mod_cast Nat.succ_le_succ hn

theorem firstPass_le {answers : ℕ → Answer} {j : ℕ} (h : (answers j).fails = false) :
    firstPass answers ≤ (j : ℕ∞) + 1 :=
  iInf_le (fun j : {j // (answers j).fails = false} => (j : ℕ∞) + 1) ⟨j, h⟩

/-- How often a message is handled that may be sent back `left` times. -/
noncomputable def allowance (answers : ℕ → Answer) (left : ℕ) : ℕ∞ :=
  min (firstPass answers) (left + 1)

theorem le_allowance {answers : ℕ → Answer} {left n : ℕ} (h : ∀ j < n, (answers j).fails = true)
    (hn : n ≤ left) : (n : ℕ∞) + 1 ≤ allowance answers left :=
  le_min (le_firstPass h) (by exact_mod_cast Nat.succ_le_succ hn)

theorem eq_allowance {answers : ℕ → Answer} {left n : ℕ} (h : ∀ j < n, (answers j).fails = true)
    (hn : n ≤ left) (hl : (answers n).fails = true → n = left) :
    (n : ℕ∞) + 1 = allowance answers left := by
  apply le_antisymm (le_allowance h hn)
  cases hf : (answers n).fails with
  | false => exact (min_le_left _ _).trans (firstPass_le hf)
  | true =>
    rw [hl hf]
    exact min_le_right _ _

/-- The records `g` of a message that is resolved, and what is left of its count, if it may be sent
back `left` times: it was handled until it did not fail or its retries were used up, given back
after each attempt but the last and acknowledged after that, and it is forgotten. -/
structure Settlement (answers : ℕ → Answer) (left : ℕ) (g : List Record) (count : Option UInt32) :
    Prop where
  attempts : (attempts g : ℕ∞) = allowance answers left
  tags : (tagsOf g).length = Courier.attempts g
  requests : requestsOf g = (tagsOf g).dropLast.map gaveBackUnder ++
    (tagsOf g).getLast?.toList.map ackedUnder
  forgotten : count = none

namespace Session

/-- Nothing disturbs a message: tags name deliveries, its stream is not closed, nobody else touches
its count, and no other message that is counted with it arrives. -/
def Alone (stream ledger : Nat) (id : String) (s : Session) (d : Deed) : Prop :=
  s.FreshTag d ∧ d ≠ .closed stream ∧ d ≠ .counted ledger id ∧
    ∀ sub n d', d = .arrived sub n d' → ¬ sub.Carries ledger id d'.message

/-- What holds of a message on a manual-ack subscription after the records `g`, if its count was
`count` at first. -/
structure Attempting (sub : Subscription) (stream : Nat) (id : String) (count : Nat)
    (g : List Record) (place : Place) (s : Session) : Prop where
  steady : s.Steady sub stream
  bound : sub.ledger < s.ledgers.length
  confined : s.Confined sub.ledger id [stream]
  course : Course sub stream id g place
  holds : place.Holds s sub stream id
  begun : place ≠ .nowhere
  retries : sentBack g ≤ sub.consumer.contract.maxRetry.toNat - count
  counted : place ≠ .resolved → ((s.ledger sub.ledger).get id).toNat = count + sentBack g
  forgotten : place = .resolved → (s.ledger sub.ledger).count? id = none ∧
    ∀ last, (answersOf g).getLast? = some last → last.fails = true →
      sentBack g = sub.consumer.contract.maxRetry.toNat - count

section
variable {s s' : Session} {sub : Subscription} {stream : Nat} {id : String} {count : Nat}
  {g : List Record} {place : Place} {d : Deed} {dl : Delivery}

theorem Attempting.other (h : Attempting sub stream id count g place s) (m : Move s d s')
    (ok : Alone stream sub.ledger id s d) (hn : d.isAbout stream (sub.reads id) = false)
    (holds : place.Holds s' sub stream id) : Attempting sub stream id count g place s' := by
  obtain ⟨fresh, hclosed, hcount, harr⟩ := ok
  have hentry := m.count?_kept h.steady.toServing h.bound h.confined hcount hn
  have hget : (s'.ledger sub.ledger).get id = (s.ledger sub.ledger).get id :=
    congrArg (·.getD 0) hentry
  refine ⟨h.steady.move m fresh hclosed, by rw [m.ledgers_length]; exact h.bound,
    h.confined.move h.steady.sound h.steady.tagged m ?_, h.course, holds, h.begun, h.retries,
    ?_, ?_⟩
  · exact fun sub' n d' hd hc => absurd hc (harr sub' n d' hd)
  · rw [hget]
    exact h.counted
  · rw [hentry]
    exact h.forgotten

/-- What a move does to the count of the message it is about. -/
theorem Attempting.count?_eq (h : Attempting sub stream id count g place s) (m : Move s d s')
    (ok : Alone stream sub.ledger id s d) :
    (s'.ledger sub.ledger).count? id = d.entered sub.ledger id ((s.ledger sub.ledger).count? id) :=
  m.count?_eq h.bound ok.2.2.1

/-- A message that is sent back uses up one retry. -/
theorem Attempting.sent (h : Attempting sub stream id count g (.handling dl) s) {answer : Answer}
    (m : Move s (.concluded sub stream dl id answer .requeued) s')
    (ok : Alone stream sub.ledger id s (.concluded sub stream dl id answer .requeued)) :
    sentBack g + 1 ≤ sub.consumer.contract.maxRetry.toNat - count ∧
      ((s'.ledger sub.ledger).get id).toNat = count + (sentBack g + 1) := by
  have hlt := (Consumer.verdict_requeued m.verdict_eq.symm).2.2
  have hcounted := h.counted Place.noConfusion
  have hltn : ((s.ledger sub.ledger).get id).toNat < sub.consumer.contract.maxRetry.toNat := hlt
  have hentry := h.count?_eq m ok
  simp only [Deed.entered, and_self, if_true] at hentry
  have hget : (s'.ledger sub.ledger).get id = Ledger.succ ((s.ledger sub.ledger).get id) :=
    congrArg (·.getD 0) hentry
  have hsucc : ((s'.ledger sub.ledger).get id).toNat =
      ((s.ledger sub.ledger).get id).toNat + 1 := by
    rw [hget]
    exact Ledger.toNat_succ_of_lt hlt
  constructor
  · omega
  · omega

/-- A message that is resolved is forgotten. If it failed then it has used up its retries. -/
theorem Attempting.settled (h : Attempting sub stream id count g (.handling dl) s) {answer : Answer}
    {r : Resolution} (m : Move s (.concluded sub stream dl id answer r) s')
    (ok : Alone stream sub.ledger id s (.concluded sub stream dl id answer r))
    (hn : r ≠ .requeued) :
    (s'.ledger sub.ledger).count? id = none ∧
      (answer.fails = true → sentBack g = sub.consumer.contract.maxRetry.toNat - count) := by
  have hverdict := m.verdict_eq
  have hcounted := h.counted Place.noConfusion
  have hretries := h.retries
  obtain ⟨hnone, hexh⟩ := Consumer.verdict_of_manual h.steady.manual (hverdict ▸ hn)
  constructor
  · rw [h.count?_eq m ok, hverdict]
    simp only [Deed.entered, and_self, if_true]
    exact hnone _
  · intro hfails
    have hle : sub.consumer.contract.maxRetry.toNat ≤ ((s.ledger sub.ledger).get id).toNat :=
      hexh hfails
    omega

/-- A leg that is no conclusion leaves the count alone. -/
theorem Attempting.kept (h : Attempting sub stream id count g place s) (m : Move s d s')
    (ok : Alone stream sub.ledger id s d) (hn : place ≠ .resolved)
    (hd : ∀ entry, d.entered sub.ledger id entry = entry) :
    ((s'.ledger sub.ledger).get id).toNat = count + sentBack g := by
  have hget : (s'.ledger sub.ledger).get id = (s.ledger sub.ledger).get id := by
    unfold Ledger.get
    rw [h.count?_eq m ok, hd]
  rw [hget]
  exact h.counted hn

theorem Attempting.own (h : Attempting sub stream id count g place s) (m : Move s d s')
    (ok : Alone stream sub.ledger id s d) {place' : Place}
    (leg : Leg sub stream id place ⟨d, s.since s'⟩ place') (holds : place'.Holds s' sub stream id) :
    Attempting sub stream id count (g ++ [⟨d, s.since s'⟩]) place' s' := by
  have steady := h.steady.move m ok.1 ok.2.1
  have bound : sub.ledger < s'.ledgers.length := by
    rw [m.ledgers_length]
    exact h.bound
  have confined := h.confined.move h.steady.sound h.steady.tagged m
    fun sub' n d' hd hc => absurd hc (ok.2.2.2 sub' n d' hd)
  have course := Course.next h.course leg
  have hretries := h.retries
  generalize s.since s' = entries at leg course ⊢
  cases leg with
  | arrive => exact absurd rfl h.begun
  | giveBack | again =>
    have hkept := h.kept m ok Place.noConfusion fun _ => rfl
    refine ⟨steady, bound, confined, course, holds, Place.noConfusion, ?_, fun _ => ?_,
      Place.noConfusion⟩
    · rw [sentBack_append]
      exact hretries
    · rw [hkept, sentBack_append]
      rfl
  | sendBack =>
    obtain ⟨hle, hcount⟩ := h.sent m ok
    refine ⟨steady, bound, confined, course, holds, Place.noConfusion, ?_, fun _ => ?_,
      Place.noConfusion⟩
    · rw [sentBack_append]
      exact hle
    · rw [hcount, sentBack_append]
      rfl
  | @resolve dl answer r _ hn =>
    obtain ⟨hnone, hlast⟩ := h.settled m ok hn
    have hsent :
        sentBack (g ++ [⟨.concluded sub stream dl id answer r, entries⟩]) = sentBack g := by
      simp [hn]
    refine ⟨steady, bound, confined, course, holds, Place.noConfusion, ?_,
      fun hne => absurd rfl hne, fun _ => ⟨hnone, ?_⟩⟩
    · rw [hsent]
      exact hretries
    · intro last hlast' hfails
      rw [answersOf_append, Deed.answer?, Option.toList_some, List.getLast?_concat] at hlast'
      rw [← Option.some.inj hlast'] at hfails
      rw [hsent]
      exact hlast hfails

theorem Attempting.move (h : Attempting sub stream id count g place s) (m : Move s d s')
    (ok : Alone stream sub.ledger id s d) :
    ∃ place', Attempting sub stream id count
      (g ++ [⟨d, s.since s'⟩].filter fun r : Record => r.deed.isAbout stream (sub.reads id)) place'
      s' := by
  have once : d.isArrival stream (sub.reads id) = true → place = .nowhere := by
    intro ha
    cases d with
    | arrived sub' n d' =>
      exfalso
      obtain ⟨hn, hr⟩ : n = stream ∧ sub.reads id d'.message = true := by
        simpa [Deed.isArrival] using ha
      have hsub : sub' = sub := by
        cases m with
        | arrive _ _ hsub =>
          rw [hn, h.steady.known] at hsub
          exact (Option.some.inj hsub).symm
      subst hsub
      exact ok.2.2.2 sub' n d' rfl ⟨rfl, by simpa [Subscription.reads] using hr⟩
    | _ => cases ha
  rcases h.holds.move h.steady m once with ⟨hn, holds⟩ | ⟨hp, place', leg, holds⟩
  · refine ⟨place, ?_⟩
    rw [List.filter_singleton, hn]
    simpa using h.other m ok hn holds
  · refine ⟨place', ?_⟩
    rw [List.filter_singleton, hp]
    exact h.own m ok leg holds

theorem Attempting.run {h : List Record} (start : Attempting sub stream id count g place s)
    (run : Run (Alone stream sub.ledger id) s h s') :
    ∃ place', Attempting sub stream id count
      (g ++ h.filter fun r => r.deed.isAbout stream (sub.reads id)) place' s' := by
  induction run with
  | start => exact ⟨place, by simpa using start⟩
  | next _ m ok ih =>
    obtain ⟨place', hp⟩ := ih
    rw [List.filter_append, ← List.append_assoc]
    exact hp.move m ok

theorem Attempting.first (steady : s.Steady sub stream) (bound : sub.ledger < s.ledgers.length)
    (alone : s.Confined sub.ledger id []) {dl : Delivery} (m : Move s (.arrived sub stream dl) s')
    (fresh : s.FreshTag (.arrived sub stream dl)) (reads : sub.idOf? dl.message = some id) :
    Attempting sub stream id ((s.ledger sub.ledger).get id).toNat
      [⟨.arrived sub stream dl, s.since s'⟩] (.handling dl) s' := by
  have nobody := steady.done alone rfl
  have about : Deed.isAbout stream (sub.reads id) (.arrived sub stream dl) = true := by
    simp [Deed.isAbout, Subscription.reads, reads]
  have confined := alone.first steady.sound steady.tagged m
  have hget : (s'.ledger sub.ledger).get id = (s.ledger sub.ledger).get id :=
    congrArg (·.getD 0) (m.count?_eq bound (by simp))
  have nowhere : Place.nowhere.Holds s sub stream id := nobody
  rcases nowhere.move steady m (fun _ => rfl) with
    ⟨hn, -⟩ | ⟨-, place', leg, holds⟩
  · rw [about] at hn
    cases hn
  · have course := Course.next .start leg
    generalize s.since s' = entries at leg course ⊢
    cases leg with
    | arrive =>
      refine ⟨steady.move m fresh (by simp), by rw [m.ledgers_length]; exact bound, confined,
        course, holds, Place.noConfusion, Nat.zero_le _, fun _ => ?_, Place.noConfusion⟩
      rw [hget]
      rfl

/-- A message has been `Attempting` since it arrived. -/
theorem Attempting.of_arrival {h : List Record} {s₁ : Session} (steady : s.Steady sub stream)
    (bound : sub.ledger < s.ledgers.length) (alone : s.Confined sub.ledger id [])
    (first : Move s (.arrived sub stream dl) s₁) (fresh : s.FreshTag (.arrived sub stream dl))
    (reads : sub.idOf? dl.message = some id) (run : Run (Alone stream sub.ledger id) s₁ h s') :
    ∃ place, Attempting sub stream id ((s.ledger sub.ledger).get id).toNat
      ((⟨.arrived sub stream dl, s.since s₁⟩ :: h).filter fun r =>
        r.deed.isAbout stream (sub.reads id)) place s' := by
  have about : Deed.isAbout stream (sub.reads id) (.arrived sub stream dl) = true := by
    simp [Deed.isAbout, Subscription.reads, reads]
  rw [List.filter_cons_of_pos (by exact about), ← List.singleton_append]
  exact (Attempting.first steady bound alone first fresh reads).run run

/-- What the records of a message come to, whether or not it is resolved. -/
theorem Attempting.account (now : Attempting sub stream id count g place s) {answers : ℕ → Answer}
    (answered : ∀ j a, (answersOf g)[j]? = some a → a = answers j) {left : ℕ}
    (hleft : left = sub.consumer.contract.maxRetry.toNat - count) :
    (attempts g : ℕ∞) ≤ allowance answers left ∧ g.length ≤ 3 * attempts g ∧
      (s.Done stream (sub.reads id) →
        Settlement answers left g ((s.ledger sub.ledger).count? id)) ∧
      (¬ s.Done stream (sub.reads id) →
        ∃ d s', Move s d s' ∧ d.isAbout stream (sub.reads id) = true ∧
          d.isArrival stream (sub.reads id) = false) := by
  have told := now.course.told
  have next := now.holds.next now.steady
  have not_done := now.holds.not_done now.begun
  have retries := now.retries
  rw [← hleft] at retries
  by_cases hdone : place = .resolved
  · subst hdone
    obtain ⟨hnone, hlast⟩ := now.forgotten rfl
    obtain ⟨past, t, failed, last, fin⟩ := told
    have hexact : (attempts g : ℕ∞) = allowance answers left := by
      rw [fin.attempts]
      push_cast
      refine eq_allowance (fin.fails_of_answered answered) (fin.sentBack ▸ retries) ?_
      rw [← fin.last_of_answered answered, ← fin.sentBack, hleft]
      exact hlast last (by rw [fin.answers, List.getLast?_concat])
    refine ⟨hexact.le, ?_, fun _ => ⟨hexact, ?_, ?_, hnone⟩, fun hn => absurd now.holds hn⟩
    · rw [fin.moves, fin.attempts]
      omega
    · rw [fin.tags, fin.attempts, List.length_append]
      rfl
    · rw [fin.requests, fin.tags, List.dropLast_concat, List.getLast?_concat]
      rfl
  · obtain ⟨past, now', failed, rounds, hle, hmoves⟩ := told.rounds hdone
    refine ⟨?_, hmoves, fun hd => absurd hd (not_done hdone), next⟩
    have hfails := rounds.fails_of_answered answered
    rw [rounds.sentBack] at retries
    have hcast : (attempts g : ℕ∞) ≤ (failed.length : ℕ∞) + 1 := by exact_mod_cast hle
    exact hcast.trans (le_allowance hfails retries)

/-- A session that has nothing to do is done with every message. -/
theorem done_of_idle (tasks : s.tasks = []) (returned : s.broker.returned = []) (stream : Nat)
    (P : Message → Bool) : s.Done stream P := by
  unfold Done underWay comingBack
  rw [tasks, returned]
  exact ⟨rfl, rfl⟩

/-- No command to a ledger is about this id, so nobody outside touches its count. -/
theorem CausedBy.uncounted {commands : List Command}
    (ok : CausedBy (commands ++ [.settle]) s d) (calm : ∀ n call, .ledger n call id ∉ commands)
    {ledger : Nat} : d ≠ .counted ledger id := by
  rintro rfl
  obtain ⟨n, call, hmem⟩ := ok.ledger_mem
  exact calm n call (by simpa using hmem)

/-- Commands that are about no message of the id leave it alone. -/
theorem Run.alone {commands : List Command} {ledger : Nat} {h : List Record}
    (run : Run (CausedBy (commands ++ [.settle])) s h s') (unclosed : .close stream ∉ commands)
    (uncounted : ∀ n call, .ledger n call id ∉ commands)
    (new : ∀ r ∈ h, r.deed.brings? ≠ some (ledger, id)) : Run (Alone stream ledger id) s h s' := by
  refine (run.among (Q := fun d => d.brings? ≠ some (ledger, id)) new).mono fun s d ok => ?_
  refine ⟨ok.1.2.1, ?_, ok.1.uncounted uncounted, fun sub n d' hd hc => ?_⟩
  · rintro rfl
    exact unclosed (by simpa using ok.1.close_mem)
  · exact ok.2 (hd ▸ Deed.brings?_of_carries hc)

/-- A message whose count is its own is handled until it does not fail or its retries are used up,
given back after each attempt but the last and acknowledged after that. It takes three moves at most
for an attempt, and until the message is resolved one of them is always possible that needs nothing
from outside. When a session has carried out commands and has settled, a message that arrived
meanwhile has been handled just that often, if its id was new and nothing disturbed it. -/
theorem handled_until_allowance {s₀ : Session} (fresh : s₀.Fresh) :
    (∀ {sub : Subscription} {stream : Nat} {dl : Delivery} {id : String} {s s₁ s' : Session}
      {h₀ h g : List Record} {left : ℕ}, sub.consumer.contract.autoAck = false →
      sub.idOf? dl.message = some id → ∀ answers : ℕ → Answer, Run FreshTag s₀ h₀ s →
      s.broker.redelivers = true → s.broker.Grants .ack → s.broker.Grants .nack →
      sub.ledger < s.ledgers.length → s.Confined sub.ledger id [] →
      Move s (.arrived sub stream dl) s₁ → s.FreshTag (.arrived sub stream dl) →
      Run (Alone stream sub.ledger id) s₁ h s' →
      g = ((⟨.arrived sub stream dl, s.since s₁⟩ :: h).filter fun r =>
        r.deed.isAbout stream (sub.reads id)) →
      (∀ j a, (answersOf g)[j]? = some a → a = answers j) →
      left = sub.consumer.contract.maxRetry.toNat - ((s.ledger sub.ledger).get id).toNat →
      (attempts g : ℕ∞) ≤ allowance answers left ∧ g.length ≤ 3 * attempts g ∧
      (s'.Done stream (sub.reads id) →
        Settlement answers left g ((s'.ledger sub.ledger).count? id)) ∧
      (¬ s'.Done stream (sub.reads id) →
        ∃ d s'', Move s' d s'' ∧ d.isAbout stream (sub.reads id) = true ∧
          d.isArrival stream (sub.reads id) = false)) ∧
    ∀ commands : List Command, s₀.Supplied → s₀.broker.redelivers = true →
      s₀.broker.Grants .ack → s₀.broker.Grants .nack → (∀ c ∈ commands, Untagged c) →
      ∃ h s', s₀.CarriesOut (commands ++ [.settle]) h s' ∧
        ∀ before sub stream dl id entries after,
          h = before ++ ⟨.arrived sub stream dl, entries⟩ :: after →
          sub.consumer.contract.autoAck = false → sub.idOf? dl.message = some id →
          .close stream ∉ commands → (∀ n call, .ledger n call id ∉ commands) →
          (∀ r ∈ before ++ after, r.deed.brings? ≠ some (sub.ledger, id)) →
          let g := (⟨.arrived sub stream dl, entries⟩ :: after).filter fun r =>
            r.deed.isAbout stream (sub.reads id)
          ∀ answers : ℕ → Answer, (∀ j a, (answersOf g)[j]? = some a → a = answers j) →
            Settlement answers
              (sub.consumer.contract.maxRetry.toNat - ((s₀.ledger sub.ledger).get id).toNat) g
              ((s'.ledger sub.ledger).count? id) := by
  constructor
  · intro sub stream dl id s s₁ s' h₀ h g left manual reads answers run₀ redelivers acks nacks bound
      alone first tag run hg answered hleft
    have steady : s.Steady sub stream :=
      ⟨⟨run₀.sound fresh.sound, run₀.tagged (fun _ _ ok => ok) fresh.tagged, acks, nacks,
        redelivers, first.arrived_at.1, first.arrived_at.2⟩, manual⟩
    obtain ⟨place, now⟩ := Attempting.of_arrival steady bound alone first tag reads run
    rw [← hg] at now
    exact now.account answered hleft
  · intro commands supplied redelivers acks nacks untagged
    obtain ⟨h, s', done, orderly, tasks, returned⟩ :=
      steps_settle (fresh.orderly supplied) commands untagged
    refine ⟨h, s', done, ?_⟩
    rintro before sub stream dl id entries after rfl manual reads unclosed uncounted new g answers
      answered
    have bound := done.run.bound_of_arrival orderly.supplied.backed
    obtain ⟨s, s₁, run₀, first, ok, rfl, run⟩ := done.run.split
    have found := run₀.untouched (fresh.untouched bound)
      (fun s d ok => ⟨ok.2.1, ok.uncounted uncounted⟩) fun r hr => new r (List.mem_append_left _ hr)
    have alone := run.alone unclosed uncounted fun r hr => new r (List.mem_append_right _ hr)
    have serving := Serving.of_arrival fresh (run₀.mono fun s d ok => ok.2.1) redelivers acks nacks
      first
    obtain ⟨place, now⟩ :=
      Attempting.of_arrival ⟨serving, manual⟩ found.bound found.nobody first ok.2.1 reads alone
    have left : ((s.ledger sub.ledger).get id).toNat = ((s₀.ledger sub.ledger).get id).toNat :=
      congrArg (fun count => (count.getD 0).toNat) found.count
    rw [left] at now
    exact (now.account answered rfl).2.2.1 (done_of_idle tasks returned _ _)

end
set_option maxRecDepth 100000 in
theorem handled_twice : ∃ (s : Session) (g : List Record),
    s.Done 0 ((Trial.subscription 1 2).reads "i") ∧ attempts g = 2 ∧
    requestsOf g = [gaveBackUnder 1, ackedUnder 2] ∧
    (attempts g : ℕ∞) = allowance (fun j => if j = 0 then Trial.failure else .done) 2 ∧
    (s.ledger 0).count? "i" = none ∧
    ∃ h s' before dl entries after answers, (Trial.session [Trial.subscription 1 2]).CarriesOut
        ([.deliver 0 [(Trial.message, none)]] ++ [.settle]) h s' ∧
      h = before ++ ⟨.arrived (Trial.subscription 1 2) 0 dl, entries⟩ :: after ∧
      dl.message = Trial.message ∧
      Settlement answers 2 ((⟨.arrived (Trial.subscription 1 2) 0 dl, entries⟩ :: after).filter
        fun r => r.deed.isAbout 0 ((Trial.subscription 1 2).reads "i"))
        ((s'.ledger 0).count? "i") := by
  let sub := Trial.subscription 1 2
  have fresh : (Trial.session [sub]).Fresh := ⟨rfl, rfl, rfl, rfl⟩
  have arrived := @Move.arrive (Trial.session [sub]) sub 0 Trial.message none rfl (by decide)
  have known := arrived.known (n := 0) rfl
  have failed := Move.conclude (t := Trial.task 1 0 Trial.failure) (by decide +kernel) known rfl
  have known := failed.known known
  have back := Move.giveBack
    (t := { Trial.task 1 0 Trial.failure with due := 1000, stage := .delayed })
    (by decide +kernel) known rfl
  have known := back.known known
  have again := Move.again (p := ⟨1, 0, Trial.message⟩) (by decide +kernel) known
    (by decide +kernel)
  have known := again.known known
  have done := Move.conclude (t := Trial.task 2 0 .done) (by decide +kernel) known rfl
  have run : Run (Alone 0 0 "i") _ _ _ :=
    (((Run.start.next failed
        ⟨trivial, Deed.noConfusion, Deed.noConfusion, fun _ _ _ h => Deed.noConfusion h⟩).next back
        ⟨trivial, Deed.noConfusion, Deed.noConfusion, fun _ _ _ h => Deed.noConfusion h⟩).next again
        ⟨by decide +kernel, Deed.noConfusion, Deed.noConfusion,
          fun _ _ _ h => Deed.noConfusion h⟩).next done
        ⟨trivial, Deed.noConfusion, Deed.noConfusion, fun _ _ _ h => Deed.noConfusion h⟩
  have nobody : (Trial.session [sub]).Confined 0 "i" [] := fun _ _ hm _ =>
    absurd hm List.not_mem_nil
  have granted : ∀ rpc, (Trial.session [sub]).broker.Grants rpc := fun _ _ h =>
    absurd h List.not_mem_nil
  obtain ⟨inRuns, atCommands⟩ := handled_until_allowance fresh
  have story := fun g hg (answers : answersOf g = [Trial.failure, .done]) =>
    @inRuns sub 0 ⟨1, Trial.message⟩ "i" _ _ _ _ _ g _ rfl (by decide +kernel)
      (fun j => if j = 0 then Trial.failure else .done) .start rfl (granted .ack) (granted .nack)
      (by decide) nobody arrived (by decide +kernel) run hg (by
        intro j a h
        rw [answers] at h
        match j with
        | 0 => exact (Option.some.inj h).symm
        | 1 => exact (Option.some.inj h).symm) (show 2 = _ by decide +kernel)
  obtain ⟨-, -, resolved, -⟩ := story _ rfl (by decide +kernel)
  obtain ⟨handled, -, -, forgotten⟩ := resolved ⟨by decide +kernel, by decide +kernel⟩
  refine ⟨_, _, ⟨by decide +kernel, by decide +kernel⟩, by decide +kernel, by decide +kernel,
    handled, forgotten, ?_⟩
  -- The same at commands, with whatever answers the handler gives.
  have supplied : (Trial.session [sub]).Supplied := ⟨by unfold Backed; decide, by decide⟩
  obtain ⟨h, s', done, settled⟩ := atCommands [.deliver 0 [(Trial.message, none)]] supplied rfl
    (granted .ack) (granted .nack)
    (List.forall_mem_singleton.mpr (List.forall_mem_singleton.mpr rfl))
  have unrouted : ∀ c ∈ [Command.deliver 0 [(Trial.message, none)]] ++ [.settle], Unrouted c :=
    List.forall_mem_cons.mpr ⟨trivial, List.forall_mem_singleton.mpr trivial⟩
  have arrivals : arrivedIn h = [(0, Trial.message)] := done.arrivals unrouted
  have subs : s'.subscriptions = [sub] := by
    refine done.run.subscriptions_eq ?_
    rw [← done.ends]
    decide +kernel
  have distinct : (idsIn h).Nodup := by
    rw [done.run.idsIn_eq, arrivals, subs]
    decide +kernel
  obtain ⟨before, sub', dl, entries, after, rfl, carries, here⟩ :=
    done.arrives unrouted (m := Trial.message) List.mem_cons_self
  rw [subs] at here
  obtain rfl : sub = sub' := Option.some.inj here
  have reads : sub.idOf? dl.message = some "i" := by
    rw [carries]
    decide +kernel
  have new := not_brings_of_nodup distinct (Deed.brings?_of_carries ⟨rfl, reads⟩)
  let g := (⟨.arrived sub 0 dl, entries⟩ :: after).filter fun r => r.deed.isAbout 0 (sub.reads "i")
  have settlement := settled _ _ _ _ _ _ _ rfl rfl reads (by simp) (by simp) new
    (fun j => (answersOf g)[j]?.getD .done) fun j a answer =>
      (congrArg (·.getD .done) answer).symm
  exact ⟨_, s', before, dl, entries, after, _, done, rfl, carries, settlement⟩

end Session
end Courier
