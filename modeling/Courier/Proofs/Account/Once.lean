import Courier.Proofs.Account.Journal
import Courier.Proofs.Session.Schedule

/-! Each delivery is accounted for once: one delivery under way at most has its number, its handler
is called once and told once, and one request ends it. -/
namespace Courier

/-- The request that makes a resolution known to the broker. -/
def Resolution.request (tag : Nat) : Resolution → Request
  | .requeued => .nack tag false true
  | _ => .ack tag false

/-- What is seen when a delivery ends: one request, unless the broker does not wait for any, and the
resolution. -/
def Consumer.ending (k : Consumer) (d : Delivery) (r : Resolution) (ok : Bool) : List Sight :=
  (if k.contract.autoAck then [] else [.asked (r.request d.tag) ok]) ++ [.resolved r]

namespace Consumer
variable (k : Consumer) (d : Delivery)

theorem ending_of_ackOf? {r : Resolution} (hr : r ≠ .requeued) (b : Broker) :
    b.shows (k.ackOf? d r) ++ [.resolved r] = k.ending d r (b.call (.ack d.tag false)).1.isOk := by
  have hreq : r.request d.tag = .ack d.tag false := by cases r <;> first | rfl | exact absurd rfl hr
  rw [k.ackOf?_of_ne d hr]
  unfold ending ackOf? Broker.shows
  rw [hreq]
  cases k.contract.autoAck <;> rfl

theorem ending_of_nack (manual : k.contract.autoAck = false) (b : Broker) :
    b.shows (some (.nack d.tag false true)) ++ [.resolved .requeued] =
      k.ending d .requeued (b.call (.nack d.tag false true)).1.isOk := by
  unfold ending
  rw [manual]
  rfl

/-- Nothing is kept from any handler about the end of a delivery. -/
theorem ending_seen (r : Resolution) (ok : Bool) (h : Handler) :
    (k.ending d r ok).filter h.sees = k.ending d r ok := by
  unfold ending
  cases k.contract.autoAck <;> rfl

end Consumer

namespace Session

/-- How far a delivery has got: the deliveries under way that have its number, and all that a
handler who reports has seen of it. -/
inductive Progress (sub : Subscription) (stream : Nat) (d : Delivery) :
    List Task → List Sight → Prop
  | dropped {e : EnvelopeError} {ok : Bool}
      (unread : Envelope.decode sub.consumer.contract.payloadType d.message.body = .error e) :
      Progress sub stream d [] (.told "" (some e.message) :: sub.consumer.ending d .poisoned ok)
  | handling {e : Envelope} {t : Task} {answer : Answer}
      (read : Envelope.decode sub.consumer.contract.payloadType d.message.body = .ok e)
      (own : t.stream = stream ∧ t.delivery = d) (stage : t.stage = .handling e.id answer) :
      Progress sub stream d [t] [.handled e.payload]
  | delayed {e : Envelope} {t : Task} {failure : Option String}
      (read : Envelope.decode sub.consumer.contract.payloadType d.message.body = .ok e)
      (own : t.stream = stream ∧ t.delivery = d) (stage : t.stage = .delayed)
      (manual : sub.consumer.contract.autoAck = false) :
      Progress sub stream d [t] [.handled e.payload, .told e.id failure]
  | over {e : Envelope} {failure : Option String} {r : Resolution} {ok : Bool}
      (read : Envelope.decode sub.consumer.contract.payloadType d.message.body = .ok e) :
      Progress sub stream d []
        (.handled e.payload :: .told e.id failure :: sub.consumer.ending d r ok)

/-- The deliveries under way with a number. -/
def tasksOf (s : Session) (n : Nat) : List Task := s.tasks.filter (·.serial = n)

section
variable {s s' : Session} {d : Deed} {n : Nat}

theorem Sound.tasksOf_fresh (hs : s.Sound) (hn : s.broker.handedOver < n) : s.tasksOf n = [] := by
  refine List.filter_eq_nil_iff.mpr fun t ht => ?_
  have := hs.numbered t ht
  simp only [decide_eq_true_eq]
  omega

theorem Sound.tasksOf_eq (hs : s.Sound) {t : Task} (ht : t ∈ s.tasks) :
    s.tasksOf t.serial = [t] := by
  have hfilter : s.tasksOf t.serial = s.tasks.filter (· = t) := by
    refine List.filter_congr fun t' ht' => ?_
    have hiff : t'.serial = t.serial ↔ t' = t := ⟨hs.eq_of_serial ht ht', congrArg Task.serial⟩
    simp only [hiff]
  have hcount := List.count_eq_one_of_mem (List.Nodup.of_map _ hs.serials) ht
  rw [hfilter, List.filter_eq, hcount]
  rfl

theorem tasksOf_append {ts : List Task} (h : s'.tasks = s.tasks ++ ts) (n : Nat) :
    s'.tasksOf n = s.tasksOf n ++ ts.filter (·.serial = n) := by
  unfold tasksOf
  rw [h, List.filter_append]

theorem tasksOf_dequeue_self (t : Task) : (s.dequeue t).tasksOf t.serial = [] := by
  refine List.filter_eq_nil_iff.mpr fun t' ht' => ?_
  have := (List.mem_filter.mp ht').2
  simpa using this

theorem tasksOf_dequeue_of_ne {t : Task} (h : t.serial ≠ n) :
    (s.dequeue t).tasksOf n = s.tasksOf n := by
  unfold tasksOf dequeue
  rw [List.filter_filter]
  refine List.filter_congr fun t' ht' => ?_
  by_cases hn : t'.serial = n
  · simp [hn, h.symm]
  · simp [hn]

/-- A conclusion takes its delivery away or lets it wait. -/
theorem conclude_tasksOf (sub : Subscription) (t : Task) (id : String) (answer : Answer) (n : Nat) :
    (s.conclude sub t id answer).2.tasksOf n = (s.dequeue t).tasksOf n ++
      if s.verdict sub id answer = .requeued ∧ t.serial = n then [s.delayedTask sub t] else [] := by
  rw [tasksOf_append (s := s.dequeue t) (conclude_effect s sub t id answer).2.tasks]
  congr 1
  by_cases hr : s.verdict sub id answer = .requeued
  · by_cases hn : t.serial = n
    · rw [if_pos hr, if_pos ⟨hr, hn⟩]
      exact List.filter_cons_of_pos (decide_eq_true hn)
    · rw [if_pos hr, if_neg fun e => hn e.2]
      exact List.filter_cons_of_neg (mt of_decide_eq_true hn)
  · rw [if_neg hr, if_neg fun e => hr e.1]
    rfl

theorem giveBack_tasksOf (sub : Subscription) (t : Task) (n : Nat) :
    ((s.dequeue t).giveBack sub t).tasksOf n = (s.dequeue t).tasksOf n :=
  congrArg (·.filter (·.serial = n)) (giveBack_effect s sub t).tasks

theorem arrive_tasksOf (sub : Subscription) (stream : Nat) (message : Message) (tag : Option Nat)
    (hn : n ≤ s.broker.handedOver) : (s.arrive sub stream message tag).tasksOf n = s.tasksOf n := by
  rcases arrive_tasks s sub stream message tag with ⟨ht, -⟩ | ⟨t, _, _, ht, -, hser, -, -, -⟩
  · unfold tasksOf
    rw [ht]
  · rw [tasksOf_append ht, List.filter_cons_of_neg (by simp; omega)]
    exact List.append_nil _

/-- What a move is to the delivery with number `n`: it is concluded or given back, or nothing
happens to it. -/
inductive Concerns (s : Session) (n : Nat) : Deed → Session → Prop
  | concluded {sub : Subscription} {t : Task} {id : String} {answer : Answer} (ht : t ∈ s.tasks)
      (number : t.serial = n) (hsub : s.subscriptions[t.stream]? = some sub)
      (hstage : t.stage = .handling id answer) :
      Concerns s n (.concluded sub t.stream t.delivery id answer (s.conclude sub t id answer).1)
        (s.conclude sub t id answer).2
  | gaveBack {sub : Subscription} {t : Task} (ht : t ∈ s.tasks) (number : t.serial = n)
      (hsub : s.subscriptions[t.stream]? = some sub) (hstage : t.stage = .delayed) :
      Concerns s n (.gaveBack sub t.stream t.delivery) ((s.dequeue t).giveBack sub t)
  | nothing {d : Deed} {s' : Session} (tasks : s'.tasksOf n = s.tasksOf n)
      (log : logOf n [⟨d, s.since s'⟩] = []) : Concerns s n d s'

theorem Move.concerns (m : Move s d s') (hn : n ≤ s.broker.handedOver) : s.Concerns n d s' := by
  cases m with
  | @arrive sub stream message tag =>
    have htells := arrive_tells s sub stream message tag rfl
    exact .nothing (arrive_tasksOf sub stream message tag hn) (htells.log_other _ (by omega))
  | @again sub p =>
    have htells := arrive_tells (s.takeReturned p) sub p.stream p.message none rfl
    have hne : n ≠ s.broker.handedOver + 1 := by omega
    exact .nothing (arrive_tasksOf (s := s.takeReturned p) sub p.stream p.message none hn)
      (htells.log_other _ hne)
  | @conclude sub t id answer ht hsub hstage =>
    by_cases he : t.serial = n
    · exact .concluded ht he hsub hstage
    · refine .nothing ?_ ((conclude_tells s sub t id answer).log_other _ (Ne.symm he))
      rw [conclude_tasksOf, if_neg fun h => he h.2, List.append_nil, tasksOf_dequeue_of_ne he]
  | @giveBack sub t ht hsub hstage =>
    by_cases he : t.serial = n
    · exact .gaveBack ht he hsub hstage
    · refine .nothing ?_ ((giveBack_tells s sub t).log_other _ (Ne.symm he))
      rw [giveBack_tasksOf, tasksOf_dequeue_of_ne he]
  | lose hp hclosed => exact .nothing rfl (log_aside (Move.since_aside (.lose hp hclosed) rfl) _ n)
  | close m =>
    refine .nothing ?_ (log_aside (Move.since_aside (.close m) rfl) _ n)
    unfold tasksOf
    rw [close_tasks]
  | count ledger id call =>
    refine .nothing ?_ (log_aside (Move.since_aside (.count ledger id call) rfl) _ n)
    cases call <;> rfl
  | aside ha =>
    refine .nothing ?_ (log_aside (Move.since_aside (.aside ha) rfl) _ n)
    unfold tasksOf
    rw [ha.tasks]

/-- Nothing is entered about deliveries that are still to come. -/
theorem Move.log_fresh (m : Move s d s') (hs : s.Sound) (hn : s'.broker.handedOver < n) :
    logOf n [⟨d, s.since s'⟩] = [] := by
  rw [m.handedOver] at hn
  have ne : ∀ {t : Task}, t ∈ s.tasks → n ≠ t.serial := fun ht he => by
    have := hs.numbered _ ht
    omega
  cases m with
  | @arrive sub stream message tag =>
    have hlt : s.broker.handedOver + 1 < n := hn
    exact (arrive_tells s sub stream message tag rfl).log_other _ (by omega)
  | @again sub p =>
    have hlt : s.broker.handedOver + 1 < n := hn
    have hne : n ≠ s.broker.handedOver + 1 := by omega
    exact (arrive_tells (s.takeReturned p) sub p.stream p.message none rfl).log_other _ hne
  | @conclude sub t id answer ht => exact (conclude_tells s sub t id answer).log_other _ (ne ht)
  | @giveBack sub t ht => exact (giveBack_tells s sub t).log_other _ (ne ht)
  | lose hp hclosed => exact log_aside (Move.since_aside (.lose hp hclosed) rfl) _ n
  | close m => exact log_aside (Move.since_aside (.close m) rfl) _ n
  | count ledger id call => exact log_aside (Move.since_aside (.count ledger id call) rfl) _ n
  | aside ha => exact log_aside (Move.since_aside (.aside ha) rfl) _ n

variable {allowed : Session → Deed → Prop} {h : List Record}

theorem Run.log_fresh (run : Run allowed s h s') (hs : s.Sound) (hn : s'.broker.handedOver < n) :
    logOf n h = [] := by
  induction run with
  | start => rfl
  | next run m ok ih =>
    have hm := m.handedOver
    rw [logOf_append, ih (by omega), m.log_fresh (run.sound hs) hn]
    rfl

/-- What is true of a delivery and of its log stays true, if it does whenever the delivery is
concluded or given back. -/
theorem Run.follow {P : List Task → List Entry → Prop} (run : Run allowed s h s') (hs : s.Sound)
    (hn : n ≤ s.broker.handedOver) (hp : P (s.tasksOf n) [])
    (concluded : ∀ {g s₁ sub t id answer log}, Run allowed s g s₁ →
      allowed s₁ (.concluded sub t.stream t.delivery id answer (s₁.conclude sub t id answer).1) →
      t ∈ s₁.tasks → t.serial = n → s₁.subscriptions[t.stream]? = some sub →
      t.stage = .handling id answer → P [t] log →
      P ((s₁.conclude sub t id answer).2.tasksOf n)
        (log ++ s₁.since (s₁.conclude sub t id answer).2))
    (gaveBack : ∀ {g s₁ sub t log}, Run allowed s g s₁ →
      allowed s₁ (.gaveBack sub t.stream t.delivery) → t ∈ s₁.tasks → t.serial = n →
      s₁.subscriptions[t.stream]? = some sub → t.stage = .delayed → P [t] log →
      P [] (log ++ s₁.since ((s₁.dequeue t).giveBack sub t))) :
    P (s'.tasksOf n) (logOf n h) := by
  induction run with
  | start => exact hp
  | @next g s₁ d s₂ run m ok ih =>
    have hs₁ := run.sound hs
    have hover := run.handedOver
    have hlast := m.concerns (n := n) (by omega)
    rw [logOf_append]
    cases hlast with
    | @concluded sub t id answer ht number hsub hstage =>
      subst number
      rw [hs₁.tasksOf_eq ht] at ih
      rw [(conclude_tells s₁ sub t id answer).log_self]
      exact concluded run ok ht rfl hsub hstage ih
    | @gaveBack sub t ht number hsub hstage =>
      subst number
      rw [hs₁.tasksOf_eq ht] at ih
      rw [(giveBack_tells s₁ sub t).log_self, giveBack_tasksOf, tasksOf_dequeue_self]
      exact gaveBack run ok ht rfl hsub hstage ih
    | nothing tasks log =>
      rw [tasks, log, List.append_nil]
      exact ih

end

section
variable {s s' : Session} {deed : Deed} {sub : Subscription} {stream n : Nat} {d : Delivery}

theorem arrive_error_own (hs : s.Sound) (sub : Subscription) (stream : Nat) (message : Message)
    (tag : Option Nat) {e : EnvelopeError}
    (h : Envelope.decode sub.consumer.contract.payloadType message.body = .error e) :
    (s.arrive sub stream message tag).tasksOf (s.broker.handedOver + 1) = [] := by
  have htasks : (s.arrive sub stream message tag).tasks = s.tasks ++ [] :=
    (arrive_error s sub stream message tag h).tasks.trans (List.append_nil _).symm
  rw [tasksOf_append htasks, hs.tasksOf_fresh (Nat.lt_succ_self _)]
  rfl

theorem arrive_ok_own (hs : s.Sound) (sub : Subscription) (stream : Nat) (message : Message)
    (tag : Option Nat) {e : Envelope}
    (h : Envelope.decode sub.consumer.contract.payloadType message.body = .ok e) :
    (s.arrive sub stream message tag).tasksOf (s.broker.handedOver + 1) =
      [(s.handing stream message tag).handlingTask sub stream (s.handed stream message tag) e] := by
  rw [tasksOf_append (arrive_ok s sub stream message tag h).tasks,
    hs.tasksOf_fresh (Nat.lt_succ_self _), List.nil_append]
  have own : ∀ {t : Task} {n : Nat}, t.serial = n → [t].filter (·.serial = n) = [t] := fun h =>
    List.filter_cons_of_pos (decide_eq_true h)
  exact own rfl

/-- What an arrival shows, and which delivery is under way after it. -/
theorem arrive_progress (hs : s.Sound) (sub : Subscription) (stream : Nat) (message : Message)
    (tag : Option Nat) :
    ∃ sights, Progress sub stream (s.handed stream message tag)
        ((s.arrive sub stream message tag).tasksOf (s.broker.handedOver + 1)) sights ∧
      s.Tells (s.arrive sub stream message tag) (s.broker.handedOver + 1)
        (s.handed stream message tag).tag (sights.filter sub.consumer.contract.handler.sees) := by
  cases hd : Envelope.decode sub.consumer.contract.payloadType message.body with
  | error e =>
    have htells := arrive_error_tells s sub stream message tag hd
    rw [sub.consumer.ending_of_ackOf? _ (by decide)] at htells
    refine ⟨_, ?_, htells⟩
    rw [arrive_error_own hs sub stream message tag hd]
    exact .dropped hd
  | ok e =>
    refine ⟨[.handled e.payload], ?_, arrive_ok_tells s sub stream message tag hd⟩
    rw [arrive_ok_own hs sub stream message tag hd]
    exact .handling hd ⟨rfl, rfl⟩ rfl

theorem Progress.conclude {sights : List Sight} {t : Task} {id : String} {answer : Answer}
    (hp : Progress sub stream d [t] sights) (hstage : t.stage = .handling id answer) :
    ∃ more, Progress sub stream d ((s.conclude sub t id answer).2.tasksOf t.serial)
        (sights ++ more) ∧
      s.Tells (s.conclude sub t id answer).2 t.serial t.delivery.tag
        (more.filter sub.consumer.contract.handler.sees) := by
  refine ⟨_, ?_, conclude_tells s sub t id answer⟩
  rw [conclude_tasksOf, tasksOf_dequeue_self, List.nil_append]
  cases hp with
  | delayed _ _ stage => rw [hstage] at stage; cases stage
  | @handling e t answer' read own stage =>
    obtain ⟨hid, -⟩ := Stage.handling.inj (hstage.symm.trans stage)
    by_cases hr : s.verdict sub id answer = .requeued
    · rw [if_pos ⟨hr, rfl⟩, hr, Consumer.ackOf?_requeued, hid]
      exact .delayed read own rfl (Consumer.verdict_requeued hr).2.1
    · have hseen : (s.verdict sub id answer).seenAtOnce = [.resolved (s.verdict sub id answer)] :=
        if_neg hr
      rw [if_neg fun h => hr h.1, hseen, sub.consumer.ending_of_ackOf? _ hr, own.2, hid]
      exact .over read

theorem Progress.giveBack {sights : List Sight} {t : Task} (hp : Progress sub stream d [t] sights)
    (hstage : t.stage = .delayed) :
    ∃ more, Progress sub stream d [] (sights ++ more) ∧
      s.Tells ((s.dequeue t).giveBack sub t) t.serial t.delivery.tag
        (more.filter sub.consumer.contract.handler.sees) := by
  have htells := giveBack_tells s sub t
  cases hp with
  | handling _ _ stage => rw [hstage] at stage; cases stage
  | delayed read own _ manual =>
    rw [sub.consumer.ending_of_nack _ manual,
      ← sub.consumer.ending_seen _ _ _ sub.consumer.contract.handler] at htells
    rw [own.2] at htells ⊢
    exact ⟨_, .over read, htells⟩

/-- What is seen of a delivery from its hand-over on, and which delivery is under way for it. -/
theorem progress_of_handOver {s₁ s₂ : Session} {deed : Deed} {sub : Subscription} {stream : Nat}
    {d : Delivery} (hs : s₁.Sound) (m : Move s₁ deed s₂)
    (hd : deed = .arrived sub stream d ∨ deed = .returned sub stream d) :
    s₁.subscriptions[stream]? = some sub ∧ s₂.ledgers = s₁.ledgers ∧
      ∃ sights, Progress sub stream d (s₂.tasksOf (s₁.broker.handedOver + 1)) sights ∧
        accountOf (s₁.broker.handedOver + 1) [⟨deed, s₁.since s₂⟩] =
          sights.filter sub.consumer.contract.handler.sees := by
  rcases hd with rfl | rfl
  · cases m with
    | arrive message tag hsub =>
      obtain ⟨sights, hp, htells⟩ := arrive_progress hs sub stream message tag
      exact ⟨hsub, arrive_ledgers s₁ sub stream message tag, sights, hp, htells.account_self _⟩
  · cases m with
    | @again sub p hp hsub =>
      obtain ⟨sights, hprog, htells⟩ :=
        arrive_progress (hs.takeReturned p) sub p.stream p.message none
      exact ⟨hsub, arrive_ledgers (s₁.takeReturned p) sub p.stream p.message none, sights, hprog,
        htells.account_self (.returned sub p.stream _)⟩

variable {allowed : Session → Deed → Prop} {h : List Record}

theorem Run.progress {sights : List Sight} (run : Run allowed s h s') (hs : s.Sound)
    (hp : Progress sub stream d (s.tasksOf n) sights) (hn : n ≤ s.broker.handedOver)
    (hsub : s.subscriptions[stream]? = some sub) :
    ∃ more, Progress sub stream d (s'.tasksOf n) (sights ++ more) ∧
      accountOf n h = more.filter sub.consumer.contract.handler.sees := by
  have own : ∀ {g s₁ t sub' seen}, Run allowed s g s₁ → s₁.subscriptions[t.stream]? = some sub' →
      Progress sub stream d [t] seen → sub' = sub := by
    intro g s₁ t sub' seen run₁ hsub' hp
    have hknown := run₁.keeps (P := fun u => u.subscriptions[stream]? = some sub)
      (fun hk _ m => m.known hk) hsub
    have hstream : t.stream = stream := by
      cases hp with
      | handling _ own | delayed _ own => exact own.1
    rw [hstream, hknown] at hsub'
    exact (Option.some.inj hsub').symm
  have grown : ∀ {log new : List Entry} {more last : List Sight},
      Entry.sights log = more.filter sub.consumer.contract.handler.sees →
      Entry.sights new = last.filter sub.consumer.contract.handler.sees →
      Entry.sights (log ++ new) = (more ++ last).filter sub.consumer.contract.handler.sees := by
    intro log new more last hlog hnew
    rw [Entry.sights_append, List.filter_append, hlog, hnew]
  rw [accountOf_eq]
  refine run.follow (P := fun tasks log => ∃ more, Progress sub stream d tasks (sights ++ more) ∧
    Entry.sights log = more.filter sub.consumer.contract.handler.sees) hs hn
    ⟨[], by rw [List.append_nil]; exact hp, rfl⟩ ?_ ?_
  · rintro g s₁ sub' t id answer log run₁ - ht rfl hsub' hstage ⟨more, hp, hlog⟩
    cases own run₁ hsub' hp
    obtain ⟨last, hp', htells⟩ := hp.conclude (s := s₁) hstage
    exact ⟨more ++ last, by rw [← List.append_assoc]; exact hp', grown hlog htells.sights⟩
  · rintro g s₁ sub' t log run₁ - ht rfl hsub' hstage ⟨more, hp, hlog⟩
    cases own run₁ hsub' hp
    obtain ⟨last, hp', htells⟩ := hp.giveBack (s := s₁) hstage
    exact ⟨more ++ last, by rw [← List.append_assoc]; exact hp', grown hlog htells.sights⟩

theorem handedOver_of_handOver {s₁ s₂ : Session} (m : Move s₁ deed s₂)
    (hd : deed = .arrived sub stream d ∨ deed = .returned sub stream d) :
    s₂.broker.handedOver = s₁.broker.handedOver + 1 := by
  rw [m.handedOver]
  rcases hd with rfl | rfl <;> rfl

/-- All that is entered about a delivery is entered from its hand-over on. -/
theorem Run.log_handOver {s₀ s₁ s₂ : Session} {before : List Record} (hs : s₀.Sound)
    (run : Run allowed s₀ before s₁) (after : List Record) :
    logOf (s₁.broker.handedOver + 1) (before ++ ⟨deed, s₁.since s₂⟩ :: after) =
      logOf (s₁.broker.handedOver + 1) [⟨deed, s₁.since s₂⟩] ++
        logOf (s₁.broker.handedOver + 1) after := by
  rw [← logOf_append, logOf_append, run.log_fresh hs (Nat.lt_succ_self _)]
  rfl

/-- What is seen of a delivery in a whole run, and which delivery is under way for it at the end. -/
theorem progress_of_run {s₀ s₁ s₂ : Session} {before after : List Record} (hs : s₀.Sound)
    (run : Run allowed s₀ before s₁) (m : Move s₁ deed s₂)
    (hd : deed = .arrived sub stream d ∨ deed = .returned sub stream d)
    (run' : Run allowed s₂ after s) :
    ∃ sights, Progress sub stream d (s.tasksOf (s₁.broker.handedOver + 1)) sights ∧
      accountOf (s₁.broker.handedOver + 1) (before ++ ⟨deed, s₁.since s₂⟩ :: after) =
        sights.filter sub.consumer.contract.handler.sees := by
  have hs₁ := run.sound hs
  have hnow := Nat.le_of_eq (handedOver_of_handOver m hd).symm
  obtain ⟨hsub, -, sights, hp, hfirst⟩ := progress_of_handOver hs₁ m hd
  obtain ⟨more, hp', hmore⟩ := run'.progress (hs₁.move m) hp hnow (m.known hsub)
  refine ⟨sights ++ more, hp', ?_⟩
  rw [accountOf_eq, run.log_handOver hs, Entry.sights_append, ← accountOf_eq, ← accountOf_eq,
    hfirst, hmore, List.filter_append]

/-- A delivery under way needs two moves at most to its end, whether or not its stream is open. -/
theorem Sound.ends (hs : s.Sound) {t : Task} (ht : t ∈ s.tasks) :
    ∃ g s', Run Works s g s' ∧ g.length ≤ 2 ∧ s'.tasksOf t.serial = [] := by
  have back : ∀ {s : Session} {sub : Subscription} {t : Task}, t ∈ s.tasks →
      s.subscriptions[t.stream]? = some sub → t.stage = .delayed →
      ∃ s', Move s (.gaveBack sub t.stream t.delivery) s' ∧ s'.tasksOf t.serial = [] := by
    intro s sub t ht hsub hstage
    refine ⟨_, .giveBack ht hsub hstage, ?_⟩
    rw [giveBack_tasksOf, tasksOf_dequeue_self]
  obtain ⟨sub, hsub, -⟩ := hs.attended t ht
  cases hstage : t.stage with
  | delayed =>
    obtain ⟨s', m, hgone⟩ := back ht hsub hstage
    exact ⟨_, s', Run.single m trivial, Nat.le_succ 1, hgone⟩
  | handling id answer =>
    have m := Move.conclude ht hsub hstage
    have hrest := conclude_tasksOf (s := s) sub t id answer t.serial
    rw [tasksOf_dequeue_self, List.nil_append] at hrest
    by_cases hr : s.verdict sub id answer = .requeued
    · rw [if_pos ⟨hr, rfl⟩] at hrest
      have hmem : s.delayedTask sub t ∈ (s.conclude sub t id answer).2.tasks :=
        (List.mem_filter.mp (hrest ▸ List.mem_singleton_self _)).1
      obtain ⟨s', m', hgone⟩ := back hmem (m.known hsub) rfl
      exact ⟨_, s', (Run.single m trivial).next m' trivial, Nat.le_refl 2, hgone⟩
    · rw [if_neg fun h => hr h.1] at hrest
      exact ⟨_, _, Run.single m trivial, Nat.le_succ 1, hrest⟩

end
end Session
end Courier
