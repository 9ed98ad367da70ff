import Courier.Proofs.Retry.Bound
import Courier.Proofs.Session.Tending
import Mathlib.Data.List.Fold
import Mathlib.Data.List.MinMax

/-! Retrying ends. Each hand-over leads to so many deeds at most, so that the clock has nothing left
to do after a while. -/
namespace Courier

/-- What a deed counts for. A conclusion may be followed by a deed at the same moment, and the clock
may have waited for one that gives a message back. -/
def Deed.effort : Deed → Nat
  | .returned .. | .lost _ => 1
  | .concluded .. | .gaveBack .. => 2
  | _ => 0

def effort (h : List Record) : Nat := h.foldr (fun r n => r.deed.effort + n) 0

theorem effort_append (h g : List Record) : effort (h ++ g) = effort h + effort g := by
  induction h with
  | nil => exact (Nat.zero_add _).symm
  | cons r h ih =>
    change r.deed.effort + effort (h ++ g) = r.deed.effort + effort h + effort g
    rw [ih, Nat.add_assoc]

namespace Session

/-- The effort that pending messages still take before they are handed over again. -/
def backlog (s : Session) : Nat :=
  s.broker.returned.length + 3 * s.tasks.length + 2 * s.tasks.countP (·.stage.isHandling)

section
variable {allowed : Session → Deed → Prop} {s s' : Session} {d : Deed} {h : List Record}

theorem backlog_le (s : Session) :
    s.backlog ≤ 3 * s.pending.length + 2 * s.tasks.countP (·.stage.isHandling) := by
  unfold backlog pending
  rw [List.length_append, List.length_map, List.length_map]
  omega

theorem arrive_backlog (sub : Subscription) (n : Nat) (m : Message) (tag : Option Nat) :
    (s.arrive sub n m tag).backlog ≤ s.backlog + 5 := by
  unfold backlog
  rw [(arrive_broker s sub n m tag).2]
  rcases arrive_tasks s sub n m tag with ⟨ht, -⟩ | ⟨t, _, _, ht, -, -, -, -, hst⟩
  · rw [ht]
    omega
  · have hone : t.stage.isHandling = true := by rw [hst]; rfl
    rw [ht, List.length_append, List.countP_append, List.countP_singleton, hone, if_pos rfl,
      List.length_singleton]
    omega

theorem takeReturned_backlog {p : Parcel} (hp : p ∈ s.broker.returned) :
    (s.takeReturned p).backlog + 1 = s.backlog := by
  have hlen := List.length_erase_add_one hp
  unfold backlog
  change (s.broker.returned.erase p).length + _ + _ + 1 = _
  change _ + 3 * s.tasks.length + 2 * s.tasks.countP _ + 1 = _
  omega

theorem Sound.length_dequeue (hs : s.Sound) {t : Task} (ht : t ∈ s.tasks) :
    (s.dequeue t).tasks.length + 1 = s.tasks.length := by
  have h := hs.countP_dequeue ht fun _ => true
  rw [List.countP_true, if_pos rfl] at h
  exact h

theorem conclude_backlog (hs : s.Sound) (sub : Subscription) {t : Task} {id : String}
    {answer : Answer} (ht : t ∈ s.tasks) (hstage : t.stage = .handling id answer) :
    (s.conclude sub t id answer).2.backlog + 2 ≤ s.backlog := by
  have hlen := hs.length_dequeue ht
  have hbusy := hs.countP_dequeue ht fun t => t.stage.isHandling
  have hone : t.stage.isHandling = true := by rw [hstage]; rfl
  have htasks := (conclude_effect s sub t id answer).2.tasks
  change _ = (s.dequeue t).tasks ++ _ at htasks
  rw [hone, if_pos rfl] at hbusy
  unfold backlog
  rw [conclude_returned, htasks, List.length_append, List.countP_append]
  split
  · change _ + 3 * (_ + 1) + 2 * (_ + 0) + 2 ≤ _
    omega
  · change _ + 3 * (_ + 0) + 2 * (_ + 0) + 2 ≤ _
    omega

theorem giveBack_backlog (hs : s.Sound) (sub : Subscription) {t : Task} (ht : t ∈ s.tasks)
    (hstage : t.stage = .delayed) :
    ((s.dequeue t).giveBack sub t).backlog + 2 ≤ s.backlog := by
  have he := giveBack_effect s sub t
  have hlen := hs.length_dequeue ht
  have hbusy := hs.countP_dequeue ht fun t => t.stage.isHandling
  have hnone : t.stage.isHandling = false := by rw [hstage]; rfl
  have htasks : ((s.dequeue t).giveBack sub t).tasks = (s.dequeue t).tasks := he.tasks
  rw [hnone, if_neg Bool.false_ne_true, Nat.add_zero] at hbusy
  have hret : ((s.dequeue t).giveBack sub t).broker.returned.length ≤
      s.broker.returned.length + 1 := by
    rw [he.broker]
    change (s.broker.call (.nack t.delivery.tag false true)).2.returned.length ≤ _
    rcases s.broker.call_nack_returned_cases t.delivery.tag with hr | ⟨p, -, hr⟩
    · rw [hr]
      omega
    · rw [hr, List.length_append, List.length_singleton]
  unfold backlog
  rw [htasks]
  omega

/-- The effort of a move comes from the backlog, which hand-overs alone raise. -/
theorem Move.backlog (m : Move s d s') (hs : s.Sound) :
    d.effort + s'.backlog ≤ s.backlog + 5 * d.handed?.toList.length := by
  cases m with
  | @arrive sub n message tag =>
    have ha := arrive_backlog (s := s) sub n message tag
    change 0 + _ ≤ _ + 5 * 1
    omega
  | @again sub p hp =>
    have ha := arrive_backlog (s := s.takeReturned p) sub p.stream p.message none
    have ht := takeReturned_backlog hp
    change 1 + _ ≤ _ + 5 * 1
    omega
  | @conclude sub t id answer ht hsub hstage =>
    have hc := conclude_backlog hs sub ht hstage
    change 2 + _ ≤ _ + 5 * 0
    omega
  | @giveBack sub t ht hsub hstage =>
    have hg := giveBack_backlog hs sub ht hstage
    change 2 + _ ≤ _ + 5 * 0
    omega
  | @lose p hp =>
    have ht := takeReturned_backlog hp
    change 1 + _ ≤ _ + 5 * 0
    omega
  | close n =>
    change 0 + _ ≤ _ + 5 * 0
    unfold Session.backlog
    rw [close_returned, close_tasks]
    omega
  | count ledger id call =>
    change 0 + _ ≤ _ + 5 * 0
    cases call <;> exact Nat.le_of_eq (Nat.zero_add _)
  | aside ha =>
    change 0 + _ ≤ _ + 5 * 0
    unfold Session.backlog
    rw [ha.returned, ha.tasks]
    omega

theorem Run.effort_le (run : Run allowed s h s') (hs : s.Sound) :
    effort h + s'.backlog ≤ s.backlog + 5 * (handOvers h).length := by
  induction run with
  | start => exact Nat.le_of_eq (Nat.zero_add _)
  | @next h s₁ d s₂ run m ok ih =>
    have hm := m.backlog (run.sound hs)
    have hone : effort [⟨d, s₁.since s₂⟩] = d.effort := rfl
    rw [effort_append, hone, handOvers_append, List.length_append]
    change _ ≤ _ + 5 * (_ + d.handed?.toList.length)
    omega

theorem Run.effort_of_works (run : Run Works s h s') : 2 * h.length = effort h := by
  induction run with
  | start => rfl
  | @next h s₁ d s₂ run m ok ih =>
    have htwo : effort [⟨d, s₁.since s₂⟩] = 2 := by
      cases d with
      | concluded | gaveBack => rfl
      | _ => exact ok.elim
    rw [effort_append, htwo, List.length_append, List.length_singleton, ← ih]
    omega

theorem Run.length_le_effort (run : Run Stirs s h s') : h.length ≤ effort h := by
  induction run with
  | start => exact Nat.le_refl 0
  | @next h s₁ d s₂ run m ok ih =>
    have hone : 1 ≤ effort [⟨d, s₁.since s₂⟩] := by
      cases d with
      | concluded | gaveBack => exact Nat.le_succ 1
      | returned | lost => exact Nat.le_refl 1
      | _ => exact ok.elim
    rw [effort_append, List.length_append, List.length_singleton]
    omega

theorem Run.arrivedIn_inner (run : Run Inner s h s') : arrivedIn h = [] :=
  run.arrives_nothing fun _ _ _ _ => id

/-- Contracts come and go with what is done aside. -/
theorem Reaches.subscriptions (reach : Reaches Stirs s s') :
    s'.subscriptions = s.subscriptions := by
  obtain ⟨h, run⟩ := reach
  refine run.keeps (P := fun t => t.subscriptions = s.subscriptions) ?_ rfl
  intro s₁ d s₂ he ok m
  have hd : d ≠ .aside := by
    rintro rfl
    exact ok
  exact (m.stays hd).subscriptions.trans he

/-! The clock. -/

/-- Whether time may pass before something happens: 0 if a delivery is due, else 1. -/
def idle (s : Session) : Nat := if (s.tasks.find? (·.due ≤ s.now)).isSome then 0 else 1

theorem idle_le (s : Session) : s.idle ≤ 1 := by
  unfold idle
  split <;> omega

theorem idle_of_waits (waits : ∀ t ∈ s.tasks, s.now < t.due) : s.idle = 1 := by
  unfold idle
  rw [List.find?_eq_none.mpr fun t ht => by simpa using waits t ht]
  rfl

theorem idle_of_due {t : Task} (ht : t ∈ s.tasks) (hdue : t.due ≤ s.now) : s.idle = 0 :=
  if_pos (List.find?_isSome.mpr ⟨t, ht, decide_eq_true hdue⟩)

theorem next?_none (horizon : Option Nat) (ht : s.tasks = []) (hr : s.broker.returned = []) :
    s.next? horizon = none := by
  unfold next? nextDue?
  rw [ht, hr]
  rfl

/-- Without a horizon the clock stops only when nothing is pending. -/
theorem pending_of_next?_none (h : s.next? none = none) :
    s.tasks = [] ∧ s.broker.returned = [] := by
  obtain ⟨hr, ahead⟩ := stopped_of_next? h
  refine ⟨List.eq_nil_iff_forall_not_mem.mpr fun t ht => ?_, hr⟩
  obtain ⟨-, limit, hlimit, -⟩ := ahead t ht
  cases hlimit

/-- What the clock lets happen is worth its time. -/
theorem next?_effort (hs : s.Sound) {horizon : Option Nat} (h : s.next? horizon = some s') :
    (∃ g, Run Inner s g s' ∧ s'.idle + 1 ≤ effort g + s.idle) ∧
      s'.subscriptions = s.subscriptions := by
  cases next?_next h with
  | @proceeds t ht hdue =>
    obtain ⟨g, hne, due⟩ := proceed_goesOn hs ht hdue
    have run : Run Works s g _ := due.mono fun _ _ hd => hd.1
    have hpos := List.length_pos_iff.mpr hne
    have he := run.effort_of_works
    have hi := idle_le ((s.dequeue t).proceed t)
    refine ⟨⟨g, run.mono fun _ _ => Works.inner, by omega⟩, ?_⟩
    exact Reaches.subscriptions ⟨g, run.mono fun _ _ => Works.stirs⟩
  | redelivers waits hr =>
    obtain ⟨g, hne, due⟩ := redeliver_goesOn hs hr
    have run : Run Stirs s g _ := due.mono fun _ _ hd => hd.1
    have hidle := idle_of_waits waits
    have hpos := List.length_pos_iff.mpr hne
    have he := run.length_le_effort
    have hi := idle_le s.redeliver
    exact ⟨⟨g, run.mono fun _ _ => Stirs.inner, by omega⟩, Reaches.subscriptions ⟨g, run⟩⟩
  | @passes due waits hdue =>
    -- The delivery that the clock has waited for is due now.
    obtain ⟨t, ht, hd⟩ := List.mem_map.mp (List.min?_mem hdue)
    have hidle := idle_of_waits waits
    have hi : ({ s with now := due } : Session).idle = 0 := idle_of_due ht (Nat.le_of_eq hd)
    exact ⟨⟨_, Run.single (Move.aside (aside_clock due)) trivial, by omega⟩, rfl⟩

/-- The clock stops, or there has been something to do all the time. -/
theorem runFor_effort (horizon : Option Nat) (fuel : Nat) (hs : s.Sound) :
    (s.runFor horizon fuel).subscriptions = s.subscriptions ∧
      ∃ g, Run Inner s g (s.runFor horizon fuel) ∧
        ((s.runFor horizon fuel).next? horizon = none ∨ fuel ≤ effort g + s.idle) := by
  induction fuel generalizing s with
  | zero => exact ⟨rfl, [], .start, Or.inr (Nat.zero_le _)⟩
  | succ fuel ih =>
    unfold runFor
    split
    · next h => exact ⟨rfl, [], .start, Or.inl h⟩
    · next s₁ h =>
      obtain ⟨⟨g, run, he⟩, hsubs⟩ := next?_effort hs h
      obtain ⟨hsubs', g', run', hend⟩ := ih (run.sound hs)
      refine ⟨hsubs'.trans hsubs, g ++ g', run.append run', hend.imp_right fun hf => ?_⟩
      rw [effort_append]
      omega

end

section
variable {s s' t : Session} {h g : List Record}

theorem le_maxRetry {sub : Subscription} (h : sub ∈ s.subscriptions) :
    sub.consumer.contract.maxRetry.toNat ≤ s.maxRetry := by
  unfold maxRetry
  rw [List.foldl_eq_foldr]
  exact List.le_max_of_le' 0 (List.mem_map_of_mem h) (Nat.le_refl _)

/-- Each ledger that a subscription uses is there. -/
def Backed (s : Session) : Prop := ∀ sub ∈ s.subscriptions, sub.ledger < s.ledgers.length

theorem Inner.uncounted {d : Deed} (hd : s.Inner d) (ledger : Nat) (id : String) :
    d ≠ .counted ledger id := by
  rintro rfl
  exact hd

/-- In whatever order things happen, they come to an end. -/
theorem Run.effort_bounded (run : Run (fun s d => s.Inner d ∧ s.Faithful) s g t) (hs : s.Sound)
    (backed : s.Backed) (subs : t.subscriptions = s.subscriptions) :
    effort g ≤ 8 * ((s.maxRetry + 1) * s.pending.length) := by
  have hover := (run.mono fun _ _ hd => ⟨hd.2, hd.1.uncounted⟩).handOvers_le s.maxRetry hs
    fun sub hsub => ⟨backed sub (subs ▸ hsub), le_maxRetry (subs ▸ hsub)⟩
  have hnone := (run.mono fun _ _ hd => hd.1).arrivedIn_inner
  have heffort := run.effort_le hs
  have hback := s.backlog_le
  have hmul : s.pending.length ≤ (s.maxRetry + 1) * s.pending.length :=
    Nat.le_mul_of_pos_left _ (Nat.succ_pos _)
  rw [hnone] at hover
  change _ ≤ (s.maxRetry + 1) * s.pending.length at hover
  omega

/-- The clock stops only when nothing is left to do up to the horizon. -/
theorem run_stops (horizon : Option Nat) (hs : s.Sound) (backed : s.Backed)
    (faithful : ∀ g t, Run Inner s g t → t.Faithful) :
    (s.run horizon).next? horizon = none := by
  obtain ⟨hsubs, g, run, hend⟩ := runFor_effort horizon s.runBound hs
  rcases hend with hstop | hfuel
  · exact hstop
  · have hbound := (run.within faithful).effort_bounded hs backed hsubs
    have hi := s.idle_le
    have hfuel' : 9 * (s.maxRetry + 1) * (s.tasks.length + s.broker.returned.length) + 1 ≤
      effort g + s.idle := hfuel
    have hlen : s.pending.length = s.tasks.length + s.broker.returned.length := by
      unfold pending
      rw [List.length_append, List.length_map, List.length_map]
    rw [← hlen, Nat.mul_assoc] at hfuel'
    -- Otherwise there has been more to do than there was.
    have hzero : (s.maxRetry + 1) * s.pending.length = 0 := by omega
    have hnone : s.pending.length = 0 :=
      (Nat.mul_eq_zero.mp hzero).resolve_left (Nat.succ_ne_zero _)
    have ht : s.tasks = [] := List.length_eq_zero_iff.mp (by omega)
    have hr : s.broker.returned = [] := List.length_eq_zero_iff.mp (by omega)
    have hnext := next?_none horizon ht hr
    unfold Session.run runBound runFor
    rw [hnext]
    exact hnext

/-- A broker that numbers its deliveries hands back what it is given back. -/
theorem Tagged.faithful (tagged : s.Tagged) : s.Faithful := by
  intro t ht p hp
  rw [tagged.parcels t ht] at hp
  cases Option.some.inj hp
  exact ⟨rfl, rfl⟩

theorem Numbered.faithful (numbered : s.Numbered) (tagged : s.Tagged) :
    ∀ g t, Run Inner s g t → t.Faithful := by
  intro g t run
  have hfresh := run.fresh numbered fun s d hd => by
    cases d with
    | returned => exact hd
    | arrived => exact hd.elim
    | _ => trivial
  exact (hfresh.tagged (fun _ _ hd => hd.2) tagged).faithful

/-- Retrying ends: when time passes, nothing is pending after a while, and in all each message that
was pending or has arrived is handed over no more than `maxRetry + 1` times on average. In whatever
order deliveries go on, there are only so many deeds to come. -/
theorem retrying_ends (hs : s.Sound)
    (run : Run (fun s d => s.Faithful ∧ ∀ ledger id, d ≠ .counted ledger id) s h s')
    (backed : s'.Backed) (faithful : ∀ g t, Run Inner s' g t → t.Faithful) :
    (s'.settle.tasks = [] ∧ s'.settle.broker.returned = []) ∧
      s'.settle.broker.handedOver ≤ s.broker.handedOver +
        (s'.maxRetry + 1) * (s.pending.length + (arrivedIn h).length) ∧
      ∀ g t, Run Stirs s' g t → g.length ≤ 8 * ((s'.maxRetry + 1) * s'.pending.length) := by
  have hs' := run.sound hs
  refine ⟨pending_of_next?_none (run_stops none hs' backed faithful), ?_, fun g t stirs => ?_⟩
  · obtain ⟨hsubs, g, inner, -⟩ := runFor_effort none s'.runBound hs'
    have whole := run.append ((inner.within faithful).mono fun _ _ hd => ⟨hd.2, hd.1.uncounted⟩)
    have hover := whole.handOvers_le s'.maxRetry hs fun sub hsub =>
      ⟨run.ledgers_length ▸ backed sub (hsubs ▸ hsub), le_maxRetry (hsubs ▸ hsub)⟩
    have harrived : arrivedIn (h ++ g) = arrivedIn h := by
      have hnone := inner.arrivedIn_inner
      unfold arrivedIn at hnone ⊢
      rw [List.filterMap_append, hnone, List.append_nil]
    rw [harrived] at hover
    have hcount := whole.handedOver
    change s'.settle.broker.handedOver = _ at hcount
    omega
  · have inner := stirs.mono fun _ _ => Stirs.inner
    have hbound :=
      (inner.within faithful).effort_bounded hs' backed (Reaches.subscriptions ⟨g, stirs⟩)
    exact Nat.le_trans stirs.length_le_effort hbound

end

set_option maxRecDepth 100000 in
theorem failing_ends : ∃ s h,
    Run (fun s d => s.Faithful ∧ ∀ ledger id, d ≠ .counted ledger id)
      (Trial.session [Trial.subscription 9 2]) h s ∧ s.tasks = [Trial.task 1 0 Trial.failure] ∧
    (s.settle.tasks = [] ∧ s.settle.broker.returned = []) ∧ s.settle.broker.handedOver ≤ 3 ∧
    ∀ g t, Run Stirs s g t → g.length ≤ 24 := by
  let sub := Trial.subscription 9 2
  have fresh : (Trial.session [sub]).Fresh := ⟨rfl, rfl, rfl, rfl⟩
  have numbered : (Trial.session [sub]).Numbered := fun t ht => absurd ht List.not_mem_nil
  have arrived := @Move.arrive (Trial.session [sub]) sub 0 Trial.message none rfl (by decide)
  have run : Run (fun s d => s.Faithful ∧ ∀ ledger id, d ≠ .counted ledger id) _ _ _ :=
    Run.start.next arrived ⟨fresh.tagged.faithful, fun _ _ => Deed.noConfusion⟩
  have tagged := fresh.tagged.move arrived (numbered.fresh (d := .arrived ..) rfl)
  have faithful := (numbered.move arrived rfl).faithful tagged
  have backed : ((Trial.session [sub]).arrive sub 0 Trial.message none).Backed := by
    unfold Backed
    rw [arrive_subscriptions, arrive_ledgers]
    decide
  have limit : ((Trial.session [sub]).arrive sub 0 Trial.message none).maxRetry = 2 := by
    decide +kernel
  have one : ((Trial.session [sub]).arrive sub 0 Trial.message none).pending.length = 1 := by
    decide +kernel
  have ends := retrying_ends fresh.sound run backed faithful
  rw [limit, one] at ends
  exact ⟨_, _, run, by decide +kernel, ends⟩

end Session
end Courier
