import Courier.Proofs.Company.Lot
import Courier.Proofs.Retry.Attempts
import Courier.Proofs.Session.Punctual

/-! A message that shares its id with no other follows its lot, whatever else goes on. -/
namespace Courier

namespace Letter
variable (m : Letter)

/-- The messages that have the id of this one. -/
def kin : Message → Bool := m.sub.reads m.envelope.id

/-- What a session has in its ledger under the id of a message. -/
def count (s : Session) : Option UInt32 := (s.ledger m.sub.ledger).count? m.envelope.id

end Letter

/-- A message that was handed over at `start` is in this phase, and no other of its id is on the
stream. -/
def Phase.Holds (m : Letter) (stream start : Nat) (s : Session) : Phase → Prop
  | .coming | .ended => s.Done stream m.kin
  | .handling turn => ∃ t, s.underWay stream m.kin = [t] ∧ s.comingBack stream m.kin = [] ∧
    t.delivery.message = m.message ∧ t.stage = .handling m.envelope.id turn.answer ∧
    t.due = start + min turn.wait longestWait
  | .delayed elapsed => ∃ t, s.underWay stream m.kin = [t] ∧ s.comingBack stream m.kin = [] ∧
    t.delivery.message = m.message ∧ t.stage = .delayed ∧
    t.due = start + (elapsed + min m.sub.consumer.contract.retryInterval longestWait) ∧
    m.sub.consumer.contract.autoAck = false
  | .back => s.underWay stream m.kin = [] ∧
    ∃ p, s.comingBack stream m.kin = [p] ∧ p.message = m.message

namespace Session

/-- A handler's turn depends on the message alone and on how often it has been sent back. -/
def Heeds (script : Subscription → Envelope → UInt32 → Turn) (s : Session) : Deed → Prop
  | .arrived sub _ d | .returned sub _ d =>
    ∀ e, Envelope.decode sub.consumer.contract.payloadType d.message.body = .ok e →
      sub.consumer.turn (s.desk sub.ledger) e.payload =
        script sub e ((s.ledger sub.ledger).get e.id)
  | _ => True

/-- Handlers that answer by the message alone keep to their script wherever they get to. -/
theorem Run.heeds {script : Subscription → Envelope → UInt32 → Turn}
    {allowed : Session → Deed → Prop} {s s' : Session} {h : List Record}
    (run : Run allowed s h s')
    (same : ∀ sub ∈ s'.subscriptions, ∀ (e : Envelope) n count,
      sub.consumer.contract.handler.handle e.payload n = script sub e count) :
    Run (fun s d => allowed s d ∧ s.Heeds script d) s h s' := by
  induction run with
  | start => exact .start
  | next _ m ok ih =>
    have earlier := fun sub hsub => same sub (m.subscriptions_prefix.subset hsub)
    refine (ih earlier).next m ⟨ok, ?_⟩
    cases m with
    | arrive _ _ hsub | again _ hsub =>
      exact fun e _ => earlier _ (List.mem_of_getElem? hsub) e _ _
    | _ => trivial

end Session

open Session

section
variable {m : Letter} {turns : UInt32 → Turn} {stream : Nat} {lot : Lot} {w : Watch}
  {s s' : Session} {r : Record}

theorem Phase.Holds.same {phase : Phase} {start : Nat} (h : phase.Holds m stream start s)
    (hu : s'.underWay stream m.kin = s.underWay stream m.kin)
    (hc : s'.comingBack stream m.kin = s.comingBack stream m.kin) :
    phase.Holds m stream start s' := by
  unfold Phase.Holds Session.Done at h ⊢
  rw [hu, hc]
  exact h

/-- A record takes a message one step on: what is watched and how things are then agree with its
lot. -/
structure Lot.Onward (m : Letter) (turns : UInt32 → Turn) (stream : Nat) (lot : Lot) (w : Watch)
    (r : Record) (s' : Session) : Prop where
  going : lot.phase ≠ .ended
  phase : (lot.next m turns).phase.Holds m stream (w.next r).start s'
  count : m.count s' = (lot.next m turns).count
  seen : (w.next r).seen = (lot.next m turns).seen

/-- A message that is handed over is handled. -/
theorem Lot.onward_handed (hp : lot.phase = .coming ∨ lot.phase = .back)
    (hcount : m.count s = lot.count) (hseen : w.seen = lot.seen)
    (hu : s.underWay stream m.kin = []) (hc : s.comingBack stream m.kin = []) (tag : Option Nat)
    (hturn : m.sub.consumer.turn (s.desk m.sub.ledger) m.envelope.payload =
      turns (lot.count.getD 0))
    {d : Deed} {what : Nat × Message} (hd : d.handed? = some what) :
    lot.Onward m turns stream w ⟨d, s.since (s.arrive m.sub stream m.message tag)⟩
      (s.arrive m.sub stream m.message tag) := by
  have he := arrive_ok s m.sub stream m.message tag m.read
  have hnext := (arrive_ok_tells s m.sub stream m.message tag m.read).next_handed hd
    (List.cons_ne_nil _ _) w
  have hlot : lot.next m turns = _ := Lot.next_handed hp
  rw [← hturn] at hlot
  refine ⟨?_, ?_, ?_, ?_⟩
  · rcases hp with hp | hp <;> rw [hp] <;> exact Phase.noConfusion
  · rw [hlot, hnext]
    obtain ⟨hu', hc'⟩ := arrive_underWay tag m.read hu
    exact ⟨_, hu', hc'.trans hc, rfl, rfl, rfl⟩
  · rw [hlot, ← hcount]
    exact congrArg (·.count? m.envelope.id) (ledger_eq_of_ledgers_eq (s := s) he.ledgers _)
  · rw [hlot, hnext, hseen]
    rfl

/-- A delivery of a message that waits is the one that its phase tells of. -/
theorem Phase.Holds.task {phase : Phase} {start : Nat} (h : phase.Holds m stream start s) {t : Task}
    (ht : t ∈ s.tasks) (hP : (decide (t.stream = stream) && m.kin t.delivery.message) = true) :
    s.underWay stream m.kin = [t] ∧ s.comingBack stream m.kin = [] ∧
      t.delivery.message = m.message ∧
      ((∃ turn, phase = .handling turn ∧ t.stage = .handling m.envelope.id turn.answer ∧
          t.due = start + min turn.wait longestWait) ∨
        ∃ elapsed, phase = .delayed elapsed ∧ t.stage = .delayed ∧
          t.due = start + (elapsed + min m.sub.consumer.contract.retryInterval longestWait) ∧
          m.sub.consumer.contract.autoAck = false) := by
  have hm := mem_underWay ht hP
  cases phase with
  | handling turn =>
    obtain ⟨t', hu, hc, hmsg, hstage, hdue⟩ := h
    have htt := eq_of_underWay hu ht hP
    subst htt
    exact ⟨hu, hc, hmsg, Or.inl ⟨turn, rfl, hstage, hdue⟩⟩
  | delayed elapsed =>
    obtain ⟨t', hu, hc, hmsg, hstage, hdue⟩ := h
    have htt := eq_of_underWay hu ht hP
    subst htt
    exact ⟨hu, hc, hmsg, Or.inr ⟨elapsed, rfl, hstage, hdue⟩⟩
  | coming | ended | back =>
    rw [h.1] at hm
    cases hm

/-- A message that comes back was given back. -/
theorem Phase.Holds.parcel {phase : Phase} {start : Nat} (h : phase.Holds m stream start s)
    {p : Parcel} (hp : p ∈ s.broker.returned)
    (hP : (decide (p.stream = stream) && m.kin p.message) = true) :
    phase = .back ∧ s.underWay stream m.kin = [] ∧ s.comingBack stream m.kin = [p] ∧
      p.message = m.message := by
  have hm := mem_comingBack hp hP
  cases phase with
  | back =>
    obtain ⟨hu, q, hc, hmsg⟩ := h
    rw [hc] at hm
    rw [List.mem_singleton.mp hm]
    exact ⟨rfl, hu, hc, hmsg⟩
  | handling | delayed =>
    obtain ⟨_, -, hc, -⟩ := h
    rw [hc] at hm
    cases hm
  | coming | ended =>
    rw [h.2] at hm
    cases hm

/-- A message that is not done with can go on when its time has come, without anything from
outside. -/
theorem Session.Serving.goes_on {sub : Subscription} {P : Message → Bool}
    (serving : s.Serving sub stream) (h : ¬ s.Done stream P) :
    ∃ now d s', Move { s with now } d s' ∧ d.isAbout stream P = true ∧
      d.isArrival stream P = false ∧ ({ s with now } : Session).Punctual d := by
  by_cases hu : s.underWay stream P = []
  · obtain ⟨p, hm⟩ := List.exists_mem_of_ne_nil _ fun hc => h ⟨hu, hc⟩
    obtain ⟨hp, hP⟩ := List.mem_filter.mp hm
    have hn := Deed.isAbout_stream hP
    subst hn
    exact ⟨s.now, _, _, Move.again hp serving.known serving.isOpen, hP, rfl, trivial⟩
  · obtain ⟨t, hm⟩ := List.exists_mem_of_ne_nil _ hu
    obtain ⟨ht, hP⟩ := List.mem_filter.mp hm
    have hn := Deed.isAbout_stream hP
    subst hn
    cases hstage : t.stage with
    | handling id answer =>
      exact ⟨t.due, _, _, Move.conclude (s := { s with now := t.due }) ht serving.known hstage, hP,
        rfl, t, ht, rfl, rfl, rfl⟩
    | delayed =>
      exact ⟨t.due, _, _, Move.giveBack (s := { s with now := t.due }) ht serving.known hstage, hP,
        rfl, t, ht, rfl, rfl, rfl⟩

theorem Phase.Holds.ended_of_done {phase : Phase} {start : Nat} (h : phase.Holds m stream start s)
    (hc : phase ≠ .coming) (hd : s.Done stream m.kin) : phase = .ended := by
  obtain ⟨hu, hb⟩ := hd
  cases phase with
  | coming => exact absurd rfl hc
  | ended => rfl
  | handling | delayed =>
    obtain ⟨_, hu', -⟩ := h
    rw [hu] at hu'
    cases hu'
  | back =>
    obtain ⟨-, _, hb', -⟩ := h
    rw [hb] at hb'
    cases hb'

/-- Deliveries go on at the time for which they have waited. -/
theorem Phase.Holds.due {phase : Phase} {start : Nat} (h : phase.Holds m stream start s)
    {t : Task} (ht : t ∈ s.tasks)
    (hP : (decide (t.stream = stream) && m.kin t.delivery.message) = true)
    (hdue : ∃ t' ∈ s.tasks, t'.stream = t.stream ∧ t'.delivery = t.delivery ∧ t'.due = s.now) :
    t.due = s.now := by
  obtain ⟨t', ht', hn, hd, hdue⟩ := hdue
  have hu := (h.task ht hP).1
  rw [← hn, ← hd] at hP
  rw [← eq_of_underWay hu ht' hP]
  exact hdue

theorem Lot.onward_concluded (serving : s.Serving m.sub stream)
    (bound : m.sub.ledger < s.ledgers.length) (h : lot.phase.Holds m stream w.start s)
    (hcount : m.count s = lot.count) (hseen : w.seen = lot.seen) {t : Task} {id : String}
    {answer : Answer} (ht : t ∈ s.tasks)
    (hP : (decide (t.stream = stream) && m.kin t.delivery.message) = true)
    (hstage : t.stage = .handling id answer) (hdue : t.due = s.now) :
    lot.Onward m turns stream w
      ⟨.concluded m.sub stream t.delivery id answer (s.conclude m.sub t id answer).1,
        s.since (s.conclude m.sub t id answer).2⟩ (s.conclude m.sub t id answer).2 := by
  obtain ⟨hu, hc, hmsg, ⟨turn, hp, hst, hwait⟩ | ⟨_, -, hst, -⟩⟩ := h.task ht hP
  · rw [hstage] at hst
    obtain ⟨rfl, rfl⟩ := Stage.handling.inj hst
    obtain ⟨hu', hc'⟩ := conclude_underWay stream m.kin m.sub t m.envelope.id turn.answer
    have hentry := conclude_count? s m.sub t m.envelope.id turn.answer m.envelope.id bound
    have htells := conclude_tells s m.sub t m.envelope.id turn.answer
    rw [m.sub.consumer.heard_of_grants t.delivery serving.acks] at htells
    rw [dequeue_own serving.sound ht hu, List.nil_append] at hu'
    rw [if_pos ⟨rfl, rfl⟩, (conclude_effect s m.sub t m.envelope.id turn.answer).1] at hentry
    have hnext := htells.next (d := .concluded m.sub stream t.delivery m.envelope.id turn.answer
      (s.conclude m.sub t m.envelope.id turn.answer).1) rfl w
    have helapsed : (s.now : Int) - w.start = (min turn.wait longestWait : ℕ) := by omega
    have hverdict : m.sub.consumer.verdict (lot.count.getD 0) turn.answer =
        s.verdict m.sub m.envelope.id turn.answer := by
      rw [← hcount]
      rfl
    have hlot : lot.next m turns = _ := Lot.next_concluded hp hverdict
    rw [Consumer.heard_blurred, hmsg, helapsed] at hnext
    refine ⟨by rw [hp]; exact Phase.noConfusion, ?_, ?_, by rw [hnext, hlot, hseen]⟩
    · rw [hnext, hlot]
      by_cases hr : s.verdict m.sub m.envelope.id turn.answer = .requeued
      · rw [if_pos hr, List.filter_singleton] at hu'
        rw [if_pos hr]
        refine ⟨s.delayedTask m.sub t, hu'.trans ?_, hc'.trans hc, hmsg, rfl, ?_,
          (Consumer.verdict_requeued hr).2.1⟩
        · change (bif decide (t.stream = stream) && m.kin t.delivery.message then _ else _) = _
          rw [hP]
          rfl
        · change s.now + min _ longestWait = w.start + (_ + _)
          omega
      · rw [if_neg hr] at hu' ⊢
        exact ⟨hu', hc'.trans hc⟩
    · rw [hlot]
      exact hentry.trans (congrArg (Resolution.entered · _) hcount)
  · rw [hstage] at hst
    cases hst

theorem Lot.onward_givenBack (serving : s.Serving m.sub stream)
    (h : lot.phase.Holds m stream w.start s) (hcount : m.count s = lot.count)
    (hseen : w.seen = lot.seen) {t : Task} (ht : t ∈ s.tasks)
    (hP : (decide (t.stream = stream) && m.kin t.delivery.message) = true)
    (hstage : t.stage = .delayed) (hdue : t.due = s.now) :
    lot.Onward m turns stream w
      ⟨.gaveBack m.sub stream t.delivery, s.since ((s.dequeue t).giveBack m.sub t)⟩
      ((s.dequeue t).giveBack m.sub t) := by
  obtain ⟨hu, hc, hmsg, ⟨_, -, hst, -⟩ | ⟨elapsed, hp, -, hwait, manual⟩⟩ := h.task ht hP
  · rw [hstage] at hst
    cases hst
  · have he := giveBack_effect s m.sub t
    have htells := giveBack_tells s m.sub t
    have hcall := Broker.call_of_grants (r := .nack t.delivery.tag false true) serving.nacks
    rw [m.sub.consumer.ending_of_nack t.delivery manual, hcall] at htells
    have hnext := htells.next (d := .gaveBack m.sub stream t.delivery) rfl w
    have helapsed : (s.now : Int) - w.start =
        (elapsed + min m.sub.consumer.contract.retryInterval longestWait : ℕ) := by omega
    have hlot : lot.next m turns = _ := Lot.next_givenBack hp
    rw [Consumer.ending_blurred, hmsg, helapsed] at hnext
    refine ⟨by rw [hp]; exact Phase.noConfusion, ?_, ?_, ?_⟩
    · obtain ⟨hu', hc'⟩ := giveBack_comingBack serving m.sub ht hP hu
      rw [hc, List.nil_append] at hc'
      rw [hlot]
      exact ⟨hu', _, hc', hmsg⟩
    · rw [hlot, ← hcount]
      exact congrArg (·.count? m.envelope.id) (ledger_eq_of_ledgers_eq (s := s) he.ledgers _)
    · rw [hnext, hlot, hseen]
      rfl

end

/-- A session serves a message on a stream, and no other message of its id. -/
structure Session.Hosts (s : Session) (m : Letter) (stream : Nat) : Prop where
  serving : s.Serving m.sub stream
  bound : m.sub.ledger < s.ledgers.length
  confined : s.Confined m.sub.ledger m.envelope.id [stream]

theorem Session.Hosts.move {m : Letter} {stream : Nat} {s s' : Session} {d : Deed}
    (h : s.Hosts m stream) (move : Move s d s') (ok : Alone stream m.sub.ledger m.envelope.id s d) :
    s'.Hosts m stream where
  serving := h.serving.move move ok.1 ok.2.1
  bound := by rw [move.ledgers_length]; exact h.bound
  confined := h.confined.move h.serving.sound h.serving.tagged move fun sub n d' hd hc =>
    absurd hc (ok.2.2.2 sub n d' hd)

/-- A message has followed its lot through its records `g`. -/
structure Follows (m : Letter) (turns : UInt32 → Turn) (first : Option UInt32) (stream : Nat)
    (g : List Record) (s : Session) : Prop where
  hosts : s.Hosts m stream
  phase : (fate m turns first g.length).phase.Holds m stream (watch g).start s
  count : m.count s = (fate m turns first g.length).count
  seen : (watch g).seen = (fate m turns first g.length).seen
  going : ∀ n < g.length, (fate m turns first n).phase ≠ .ended

section
variable {script : Subscription → Envelope → UInt32 → Turn} {m : Letter} {first : Option UInt32}
  {stream : Nat} {g h : List Record} {s s' : Session} {d : Deed}

theorem Follows.own {turns : UInt32 → Turn} (f : Follows m turns first stream g s)
    (move : Move s d s') (ok : Alone stream m.sub.ledger m.envelope.id s d)
    (on : (fate m turns first g.length).Onward m turns stream (watch g) ⟨d, s.since s'⟩ s') :
    Follows m turns first stream (g ++ [⟨d, s.since s'⟩]) s' := by
  have hlen : ∀ r : Record, (g ++ [r]).length = g.length + 1 := fun _ => List.length_append
  refine ⟨f.hosts.move move ok, ?_, ?_, ?_, fun n hn => ?_⟩
  · rw [hlen, fate_succ, watch_append]
    exact on.phase
  · rw [hlen, fate_succ]
    exact on.count
  · rw [hlen, fate_succ, watch_append]
    exact on.seen
  · rw [hlen] at hn
    rcases Nat.lt_succ_iff_lt_or_eq.mp hn with hlt | rfl
    · exact f.going n hlt
    · exact on.going

theorem Follows.other {turns : UInt32 → Turn} (f : Follows m turns first stream g s)
    (move : Move s d s') (ok : Alone stream m.sub.ledger m.envelope.id s d)
    (hn : d.isAbout stream m.kin = false) : Follows m turns first stream g s' := by
  obtain ⟨serving, bound, confined⟩ := f.hosts
  obtain ⟨hu, hc⟩ := move.undisturbed serving hn
  exact ⟨f.hosts.move move ok, f.phase.same hu hc,
    (move.count?_kept serving bound confined ok.2.2.1 hn).trans f.count, f.seen, f.going⟩

/-- A move about the message takes it one step on. -/
theorem Follows.onward (f : Follows m (script m.sub m.envelope) first stream g s)
    (move : Move s d s') (ok : Alone stream m.sub.ledger m.envelope.id s d) (due : s.Punctual d)
    (heeds : s.Heeds script d) (hP : d.isAbout stream m.kin = true) :
    (fate m (script m.sub m.envelope) first g.length).Onward m (script m.sub m.envelope) stream
      (watch g) ⟨d, s.since s'⟩ s' := by
  cases move with
  | @arrive sub n message tag hsub =>
    obtain ⟨hn, hr⟩ : n = stream ∧ m.kin message = true := by
      simpa [Deed.isAbout, handed] using hP
    have hs := f.hosts.serving.sub_eq hsub hn
    subst hs
    have hid : m.sub.idOf? message = some m.envelope.id := by
      simpa [Letter.kin, Subscription.reads] using hr
    exact absurd ⟨rfl, hid⟩ (ok.2.2.2 _ n _ rfl)
  | @again sub p hmem hsub =>
    have hn := Deed.isAbout_stream hP
    have hs := f.hosts.serving.sub_eq hsub hn
    subst hs hn
    obtain ⟨hp, hu, hc, hmsg⟩ := f.phase.parcel hmem hP
    have hc' : (s.takeReturned p).comingBack p.stream m.kin = [] := by
      rw [comingBack_takeReturned, hc, List.erase_cons_head]
    have hturn := heeds m.envelope (by rw [← m.read, ← hmsg]; rfl)
    have hget : (s.ledger m.sub.ledger).get m.envelope.id =
      (fate m (script m.sub m.envelope) first g.length).count.getD 0 := congrArg (·.getD 0) f.count
    rw [hget] at hturn
    have on := Lot.onward_handed (s := s.takeReturned p) (Or.inr hp) f.count f.seen hu hc' none
      hturn (d := .returned m.sub p.stream ((s.takeReturned p).handed p.stream m.message none)) rfl
    rw [hmsg]
    exact on
  | @conclude sub t id answer ht hsub hstage =>
    have hn := Deed.isAbout_stream hP
    have hs := f.hosts.serving.sub_eq hsub hn
    subst hs hn
    exact Lot.onward_concluded f.hosts.serving f.hosts.bound f.phase f.count f.seen ht hP hstage
      (f.phase.due ht hP due)
  | @giveBack sub t ht hsub hstage =>
    have hn := Deed.isAbout_stream hP
    have hs := f.hosts.serving.sub_eq hsub hn
    subst hs hn
    exact Lot.onward_givenBack f.hosts.serving f.phase f.count f.seen ht hP hstage
      (f.phase.due ht hP due)
  | _ => cases hP

theorem Follows.move (f : Follows m (script m.sub m.envelope) first stream g s) (move : Move s d s')
    (ok : Alone stream m.sub.ledger m.envelope.id s d) (due : s.Punctual d)
    (heeds : s.Heeds script d) :
    Follows m (script m.sub m.envelope) first stream
      (g ++ [⟨d, s.since s'⟩].filter fun r : Record => r.deed.isAbout stream m.kin) s' := by
  rw [List.filter_singleton]
  cases hP : d.isAbout stream m.kin with
  | false =>
    rw [cond_false, List.append_nil]
    exact f.other move ok hP
  | true =>
    rw [cond_true]
    exact f.own move ok (f.onward move ok due heeds hP)

theorem Follows.run (f : Follows m (script m.sub m.envelope) first stream g s)
    (run : Run (fun s d => Alone stream m.sub.ledger m.envelope.id s d ∧ s.Punctual d ∧
      s.Heeds script d) s h s') :
    Follows m (script m.sub m.envelope) first stream
      (g ++ h.filter fun r => r.deed.isAbout stream m.kin) s' := by
  induction run with
  | start =>
    rw [List.filter_nil, List.append_nil]
    exact f
  | next _ move ok ih =>
    rw [List.filter_append, ← List.append_assoc]
    exact ih.move move ok.1 ok.2.1 ok.2.2

/-- A message's lot begins when it arrives. -/
theorem Follows.begin (serving : s.Serving m.sub stream) (bound : m.sub.ledger < s.ledgers.length)
    (nobody : s.Confined m.sub.ledger m.envelope.id []) {dl : Delivery}
    (move : Move s (.arrived m.sub stream dl) s') (hmsg : dl.message = m.message)
    (fresh : s.FreshTag (.arrived m.sub stream dl))
    (heeds : s.Heeds script (.arrived m.sub stream dl)) :
    Follows m (script m.sub m.envelope) (m.count s) stream
      [⟨.arrived m.sub stream dl, s.since s'⟩] s' := by
  obtain ⟨hu, hc⟩ := serving.done nobody rfl
  have on : (Lot.mk .coming (m.count s) []).Onward m (script m.sub m.envelope) stream {}
      ⟨.arrived m.sub stream dl, s.since s'⟩ s' := by
    cases move with
    | @arrive sub n message tag =>
      have hturn := heeds m.envelope (by rw [← m.read, ← hmsg])
      have hmsg' : message = m.message := hmsg
      subst hmsg'
      exact Lot.onward_handed (s := s) (Or.inl rfl) rfl rfl hu hc tag hturn rfl
  have hosts : s'.Hosts m stream := ⟨serving.move move fresh Deed.noConfusion,
    by rw [move.ledgers_length]; exact bound,
    nobody.first serving.sound serving.tagged move⟩
  refine ⟨hosts, on.phase, on.count, on.seen, fun n hn => ?_⟩
  rw [Nat.lt_one_iff.mp hn]
  exact Phase.noConfusion

end
end Courier
