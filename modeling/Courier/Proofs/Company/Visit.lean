import Courier.Proofs.Company.Follows

/-! Messages in company. Nothing that a message sees depends on what other messages there are, as
long as no other has its id. -/
namespace Courier

/-- The messages that have the same id as this one, if it has one. -/
def Subscription.akin (sub : Subscription) (m m' : Message) : Bool :=
  (sub.idOf? m).any fun id => sub.reads id m'

/-- A stream is closed, or a ledger is called from outside. -/
def Deed.meddles : Deed → Bool
  | .closed _ | .counted .. => true
  | _ => false

namespace Session

/-- A run may go on in this way: tags name deliveries, deliveries go on when they are due, handlers
keep to their script, streams are not closed, and ledgers are left to the deliveries. -/
structure Fair (script : Subscription → Envelope → UInt32 → Turn) (s : Session) (d : Deed) :
    Prop where
  tag : s.FreshTag d
  due : s.Punctual d
  heeds : s.Heeds script d
  quiet : d.meddles = false

/-- A run at commands in which handlers keep to their script. -/
def Scripted (script : Subscription → Envelope → UInt32 → Turn) (commands : List Command) :
    Session → List Record → Session → Prop :=
  Run fun s d => CausedBy commands s d ∧ s.Heeds script d

theorem Fair.not_closed {script : Subscription → Envelope → UInt32 → Turn} {s : Session} {d : Deed}
    (h : s.Fair script d) (n : Nat) : d ≠ .closed n := by
  rintro rfl
  exact Bool.noConfusion h.quiet

theorem Fair.not_counted {script : Subscription → Envelope → UInt32 → Turn} {s : Session} {d : Deed}
    (h : s.Fair script d) (ledger : Nat) (id : String) : d ≠ .counted ledger id := by
  rintro rfl
  exact Bool.noConfusion h.quiet

end Session

open Session

/-- A fair run in which a message arrives at a subscription, and which goes on from there. No two
messages with one id arrive in it, but otherwise there may be any number of them. -/
structure Visit (script : Subscription → Envelope → UInt32 → Turn) (sub : Subscription)
    (message : Message) where
  stream : Nat
  delivery : Delivery
  start : Session
  before : List Record
  met : Session
  begun : Session
  after : List Record
  now : Session
  fresh : start.Fresh
  redelivers : start.broker.redelivers = true
  acks : start.broker.Grants .ack
  nacks : start.broker.Grants .nack
  bound : sub.ledger < start.ledgers.length
  earlier : Run (Fair script) start before met
  arrival : Move met (.arrived sub stream delivery) begun
  carries : delivery.message = message
  fair : met.Fair script (.arrived sub stream delivery)
  later : Run (Fair script) begun after now
  distinct : (idsIn (before ++ ⟨.arrived sub stream delivery, met.since begun⟩ :: after)).Nodup

namespace Visit
section
variable {script : Subscription → Envelope → UInt32 → Turn} {sub : Subscription} {message : Message}
  (v : Visit script sub message)

def record : Record := ⟨.arrived sub v.stream v.delivery, v.met.since v.begun⟩

/-- Everything that has been done. -/
def records : List Record := v.before ++ v.record :: v.after

/-- What has been done about the message. -/
def own : List Record :=
  v.record :: v.after.filter fun r => r.deed.isAbout v.stream (sub.akin message)

/-- What has been seen of the message. -/
def seen : List Glimpse := (watch v.own).seen

/-- What the ledger has of the message in a session. -/
def count (_ : Visit script sub message) (s : Session) : Option UInt32 :=
  (sub.idOf? message).bind (s.ledger sub.ledger).count?

/-- The message is neither under way nor does it come back. -/
def Over : Prop := v.now.Done v.stream (sub.akin message)

/-- The message can go on as soon as its time has come, without anything from outside. -/
def GoesOn : Prop :=
  ∃ now d s', Move { v.now with now } d s' ∧ d.isAbout v.stream (sub.akin message) = true ∧
    d.isArrival v.stream (sub.akin message) = false ∧ ({ v.now with now } : Session).Punctual d

/-- When the message arrives its subscription is served. -/
theorem serving : v.met.Serving sub v.stream :=
  .of_arrival v.fresh (v.earlier.mono fun _ _ ok => ok.tag) v.redelivers v.acks v.nacks v.arrival

theorem brings {id : String} (hid : sub.idOf? message = some id) :
    v.record.deed.brings? = some (sub.ledger, id) :=
  Deed.brings?_of_carries ⟨rfl, by rw [v.carries]; exact hid⟩

/-- No other message of the same id arrives. -/
theorem no_other {id : String} (hid : sub.idOf? message = some id) :
    ∀ r ∈ v.before ++ v.after, r.deed.brings? ≠ some (sub.ledger, id) :=
  not_brings_of_nodup v.distinct (v.brings hid)

/-- When the message arrives it finds everything as at first. -/
theorem found {id : String} (hid : sub.idOf? message = some id) :
    Untouched v.start sub.ledger id v.met :=
  v.earlier.untouched (v.fresh.untouched v.bound) (fun _ _ ok => ⟨ok.tag, ok.not_counted _ _⟩)
    fun r hr => v.no_other hid r (List.mem_append_left _ hr)

theorem alone {id : String} {s : Session} {d : Deed} (ok : s.Fair script d)
    (hd : d.brings? ≠ some (sub.ledger, id)) : Alone v.stream sub.ledger id s d :=
  ⟨ok.tag, ok.not_closed _, ok.not_counted _ _, fun _ _ _ he hc =>
    hd (he ▸ Deed.brings?_of_carries hc)⟩

section
variable {e : Envelope}
  (read : Envelope.decode sub.consumer.contract.payloadType message.body = .ok e)
include read

theorem idOf?_of_read : sub.idOf? message = some e.id := by
  unfold Subscription.idOf?
  rw [read]

theorem akin_of_read : sub.akin message = (Letter.mk sub message e read).kin := by
  unfold Subscription.akin
  rw [idOf?_of_read read]
  rfl

theorem count_of_read (s : Session) : v.count s = (Letter.mk sub message e read).count s := by
  unfold count
  rw [idOf?_of_read read]
  rfl

/-- A message that can be read follows its lot. -/
theorem follows : Follows ⟨sub, message, e, read⟩ (script sub e) (v.count v.start) v.stream v.own
    v.now := by
  have hid := idOf?_of_read read
  have found := v.found hid
  have hcount : v.count v.start = (v.met.ledger sub.ledger).count? e.id :=
    (v.count_of_read read v.start).trans found.count.symm
  have begun : Follows ⟨sub, message, e, read⟩ (script sub e) _ v.stream [v.record] v.begun :=
    Follows.begin v.serving found.bound found.nobody v.arrival v.carries v.fair.tag v.fair.heeds
  have later : Run (fun s d => Alone v.stream sub.ledger e.id s d ∧ s.Punctual d ∧
      s.Heeds script d) v.begun v.after v.now :=
    (v.later.among (Q := fun d => d.brings? ≠ some (sub.ledger, e.id)) fun r hr =>
      v.no_other hid r (List.mem_append_right _ hr)).mono
      fun s d ok => ⟨v.alone ok.1 ok.2, ok.1.due, ok.1.heeds⟩
  unfold own
  rw [akin_of_read read, hcount]
  exact begun.run later

theorem over_iff : v.Over ↔
    (fate ⟨sub, message, e, read⟩ (script sub e) (v.count v.start) v.own.length).phase =
      .ended := by
  have holds := (v.follows read).phase
  unfold Over
  rw [akin_of_read read]
  constructor
  · exact holds.ended_of_done fate_phase_ne_coming
  · intro ho
    rw [ho] at holds
    exact holds

end

/-- A message that cannot be read is over as soon as it has arrived. -/
theorem of_unread {e : EnvelopeError}
    (unread : Envelope.decode sub.consumer.contract.payloadType message.body = .error e) :
    v.own = [v.record] ∧ v.Over ∧
      v.seen = ((.told "" (some e.message) ::
        sub.consumer.ending message.unnumbered .poisoned true).filter
          sub.consumer.contract.handler.sees).map (⟨0, ·⟩) := by
  have hakin : sub.akin message = fun _ => false := by
    unfold Subscription.akin Subscription.idOf?
    rw [unread]
    rfl
  have hown : v.own = [v.record] := by
    unfold own
    rw [hakin, List.filter_eq_nil_iff.mpr]
    intro r _
    unfold Deed.isAbout
    split <;> simp
  refine ⟨hown, ?_, ?_⟩
  · unfold Over Done underWay comingBack
    rw [hakin]
    simp
  · have htells := v.arrival.tells_unread v.serving.acks (e := e)
      (by rw [v.carries]; exact unread)
    have hne := List.ne_nil_of_mem (List.mem_filter.mpr ⟨List.mem_cons_of_mem
      (.told "" (some e.message)) (List.mem_append_right (if sub.consumer.contract.autoAck then []
        else [.asked (.ack v.delivery.tag false) true]) (List.mem_singleton_self
          (.resolved .poisoned))), (rfl : sub.consumer.contract.handler.sees _ = true)⟩)
    have hnext := htells.next_handed (d := .arrived sub v.stream v.delivery) rfl hne {}
    unfold seen
    rw [hown]
    change (Watch.next {} v.record).seen = _
    unfold record
    rw [hnext, Handler.sees_blurred, List.map_cons, Consumer.ending_blurred, v.carries]
    rfl

end
end Visit

/-! Two messages to try company on. -/
namespace Trial

def other : Message := ⟨[], (⟨"j", .text "y"⟩ : Envelope).toValue.bytes⟩

/-- It always fails to handle one message, and takes its time with the other. -/
def choosy : Handler where
  handle payload _ := if payload.same (.text "x") then ⟨10, failure⟩ else ⟨500, .done⟩
  persist _ := ⟨0, .ok ()⟩
  reports := true

def busy : Subscription := ⟨⟨"c", { contract 0 2 with handler := choosy }, "q"⟩, 0⟩

def script (sub : Subscription) (e : Envelope) (_ : UInt32) : Turn :=
  sub.consumer.contract.handler.handle e.payload 1

end Trial

namespace Visit
section
variable {script : Subscription → Envelope → UInt32 → Turn} {sub : Subscription} {message : Message}

/-- Two visits of a message with the same count at first agree. -/
theorem agree (v w : Visit script sub message) (same : v.count v.start = w.count w.start) :
    (v.own.length ≤ w.own.length → v.seen <+: w.seen) ∧
      (v.own.length = w.own.length →
        v.seen = w.seen ∧ v.count v.now = w.count w.now ∧ (v.Over ↔ w.Over)) ∧
      (v.Over → w.own.length ≤ v.own.length) := by
  cases h : Envelope.decode sub.consumer.contract.payloadType message.body with
  | error e =>
    obtain ⟨hv, hvo, hvs⟩ := v.of_unread h
    obtain ⟨hw, hwo, hws⟩ := w.of_unread h
    have hcount : ∀ (u : Visit script sub message) (s : Session), u.count s = none := by
      intro u s
      unfold count Subscription.idOf?
      rw [h]
      rfl
    refine ⟨fun _ => by rw [hvs, hws], fun _ => ⟨hvs.trans hws.symm, ?_, iff_of_true hvo hwo⟩,
      fun _ => by rw [hv, hw]; exact Nat.le_refl 1⟩
    rw [hcount v, hcount w]
  | ok e =>
    have fv := v.follows h
    have fw := w.follows h
    have hv := v.over_iff h
    have hw := w.over_iff h
    rw [← same] at fw hw
    refine ⟨fun hle => ?_, fun hlen => ⟨?_, ?_, ?_⟩, fun ho => ?_⟩
    · unfold seen
      rw [fv.seen, fw.seen]
      exact fate_seen_prefix hle
    · unfold seen
      rw [fv.seen, fw.seen, hlen]
    · rw [v.count_of_read h, w.count_of_read h, fv.count, fw.count, hlen]
    · rw [hv, hw, hlen]
    · by_contra hlt
      exact fw.going _ (Nat.lt_of_not_le hlt) (hv.mp ho)

theorem goesOn_of_not_over (v : Visit script sub message) (hn : ¬ v.Over) : v.GoesOn := by
  cases h : Envelope.decode sub.consumer.contract.payloadType message.body with
  | error e => exact absurd (v.of_unread h).2.1 hn
  | ok e => exact (v.follows h).hosts.serving.goes_on hn

/-- What a session does at commands is a visit of each message that arrives, as long as handlers
keep to their script. Deliveries go on when they are due. -/
theorem exists_of_scripted {s₀ t : Session} {commands : List Command}
    {before after : List Record} {stream : Nat} {dl : Delivery} {entries : List Entry}
    (fresh : s₀.Fresh) (redelivers : s₀.broker.redelivers = true) (acks : s₀.broker.Grants .ack)
    (nacks : s₀.broker.Grants .nack) (backed : t.Backed) (unclosed : ∀ n, .close n ∉ commands)
    (uncounted : ∀ n call id, .ledger n call id ∉ commands)
    (run : Scripted script (commands ++ [.settle]) s₀
      (before ++ ⟨.arrived sub stream dl, entries⟩ :: after) t)
    (distinct : (idsIn (before ++ ⟨.arrived sub stream dl, entries⟩ :: after)).Nodup) :
    ∃ v : Visit script sub dl.message, v.start = s₀ ∧
      v.records = before ++ ⟨.arrived sub stream dl, entries⟩ :: after ∧ v.now = t := by
  have fair : Run (Fair script) s₀ (before ++ ⟨.arrived sub stream dl, entries⟩ :: after) t := by
    refine run.mono fun s d ok => ⟨ok.1.2.1, ok.1.2.2, ok.2, ?_⟩
    cases d with
    | closed n => exact absurd ok.1.close_mem (by simpa using unclosed n)
    | counted ledger id => exact absurd rfl (ok.1.uncounted fun n call => uncounted n call id)
    | _ => rfl
  obtain ⟨met, begun, earlier, arrival, ok, rfl, later⟩ := fair.split
  exact ⟨⟨stream, dl, s₀, before, met, begun, after, t, fresh, redelivers, acks, nacks,
    run.bound_of_arrival backed, earlier, arrival, rfl, ok, later, distinct⟩, rfl, rfl, rfl⟩

/-- Messages with different ids take no notice of each other. In two fair runs a message arrives
whose count is the same at first; in one of them it may be the only message. As far as it gets in
both, it sees the same things, each of them as long after its hand-over, and after as many steps its
count is the same. It is over after as many steps, and until then it can take the next step at its
time, whatever other deliveries wait for. What a session does at commands is such a run, as long as
handlers keep to their script, and each message is over when the session has settled. -/
theorem as_alone :
    (∀ {sub : Subscription} {message : Message} (v w : Visit script sub message),
      v.count v.start = w.count w.start →
      (v.own.length ≤ w.own.length → v.seen <+: w.seen) ∧
      (v.own.length = w.own.length →
        v.seen = w.seen ∧ v.count v.now = w.count w.now ∧ (v.Over ↔ w.Over)) ∧
      (v.Over → w.own.length ≤ v.own.length) ∧ (¬ v.Over → v.GoesOn) ∧
      (v.Over → w.Over → v.own.length = w.own.length ∧ v.seen = w.seen)) ∧
    ∀ (s₀ : Session) (commands : List Command), s₀.Fresh → s₀.Supplied →
      s₀.broker.redelivers = true → s₀.broker.Grants .ack → s₀.broker.Grants .nack →
      (∀ c ∈ commands, Untagged c) → (∀ n, .close n ∉ commands) →
      (∀ n call id, .ledger n call id ∉ commands) →
      ∃ h t, s₀.CarriesOut (commands ++ [.settle]) h t ∧
        ((∀ sub ∈ t.subscriptions, ∀ (e : Envelope) n count,
            sub.consumer.contract.handler.handle e.payload n = script sub e count) →
          Scripted script (commands ++ [.settle]) s₀ h t) ∧
        (Scripted script (commands ++ [.settle]) s₀ h t → (idsIn h).Nodup →
          ∀ before sub stream dl entries after,
            h = before ++ ⟨.arrived sub stream dl, entries⟩ :: after →
            ∃ v : Visit script sub dl.message,
              v.start = s₀ ∧ v.records = h ∧ v.now = t ∧ v.Over) := by
  constructor
  · intro sub message v w same
    obtain ⟨shorter, equal, longest⟩ := v.agree w same
    refine ⟨shorter, equal, longest, v.goesOn_of_not_over, fun hv hw => ?_⟩
    have length := Nat.le_antisymm ((w.agree v same.symm).2.2 hw) (longest hv)
    exact ⟨length, (equal length).1⟩
  · intro s₀ commands fresh supplied redelivers acks nacks untagged unclosed uncounted
    obtain ⟨h, t, done, orderly, tasks, returned⟩ :=
      steps_settle (fresh.orderly supplied) commands untagged
    refine ⟨h, t, done, done.run.heeds, ?_⟩
    rintro run distinct before sub stream dl entries after rfl
    obtain ⟨v, start, records, rfl⟩ := exists_of_scripted fresh redelivers acks nacks
      orderly.supplied.backed unclosed uncounted run distinct
    exact ⟨v, start, records, rfl, done_of_idle tasks returned _ _⟩

end

set_option maxRecDepth 100000 in
theorem fails_as_alone :
    (∃ v w : Visit Trial.script Trial.busy Trial.message,
      arrivedIn v.records = [(0, Trial.other), (0, Trial.message)] ∧
      arrivedIn w.records = [(0, Trial.message)] ∧ v.own.length = 2 ∧ w.own.length = 2 ∧
      w.count w.now = some 1 ∧ v.count v.start = w.count w.start ∧ v.seen = w.seen ∧
      v.count v.now = w.count w.now) ∧
    let commands : List Command := [.deliver 0 [(Trial.other, none), (Trial.message, none)]]
    ∃ h t, (Trial.session [Trial.busy]).CarriesOut (commands ++ [.settle]) h t ∧
      Scripted Trial.script (commands ++ [.settle]) (Trial.session [Trial.busy]) h t ∧
      arrivedIn h = [(0, Trial.other), (0, Trial.message)] ∧
      ∃ u : Visit Trial.script Trial.busy Trial.message,
        u.start = Trial.session [Trial.busy] ∧ u.records = h ∧ u.now = t ∧ u.Over := by
  have fresh : (Trial.session [Trial.busy]).Fresh := ⟨rfl, rfl, rfl, rfl⟩
  have granted : ∀ rpc, (Trial.session [Trial.busy]).broker.Grants rpc := fun _ _ h =>
    absurd h List.not_mem_nil
  -- The message alone.
  let s := (Trial.session [Trial.busy]).arrive Trial.busy 0 Trial.message none
  have arrived := @Move.arrive (Trial.session [Trial.busy]) Trial.busy 0 Trial.message none rfl
    (by decide)
  have failed := Move.conclude (s := { s with now := 10 })
    (t := ⟨1, 0, ⟨1, Trial.message⟩, 10, .handling "i" Trial.failure⟩) (by decide +kernel)
    (arrived.known (n := 0) rfl) rfl
  let w : Visit Trial.script Trial.busy Trial.message :=
    ⟨0, _, _, [], _, _, _, _, fresh, rfl, granted _, granted _, by decide, .start, arrived, rfl,
      ⟨by decide +kernel, trivial, fun _ _ => rfl, rfl⟩,
      (Run.start.next (Move.aside (aside_clock 10)) ⟨trivial, trivial, trivial, rfl⟩).next failed
        ⟨trivial, ⟨_, by decide +kernel, rfl, rfl, rfl⟩, trivial, rfl⟩, by decide +kernel⟩
  -- The message while the handler takes its time with another.
  let t := (Trial.session [Trial.busy]).arrive Trial.busy 0 Trial.other none
  let t' := t.arrive Trial.busy 0 Trial.message none
  have company := @Move.arrive (Trial.session [Trial.busy]) Trial.busy 0 Trial.other none rfl
    (by decide)
  have known := company.known (n := 0) rfl
  have joined := @Move.arrive t Trial.busy 0 Trial.message none known (by decide +kernel)
  have failed' := Move.conclude (s := { t' with now := 10 })
    (t := ⟨2, 0, ⟨2, Trial.message⟩, 10, .handling "i" Trial.failure⟩) (by decide +kernel)
    (joined.known known) rfl
  let v : Visit Trial.script Trial.busy Trial.message :=
    ⟨0, _, _, _, _, _, _, _, fresh, rfl, granted _, granted _, by decide,
      Run.single company ⟨by decide +kernel, trivial, fun _ _ => rfl, rfl⟩, joined, rfl,
      ⟨by decide +kernel, trivial, fun _ _ => rfl, rfl⟩,
      (Run.start.next (Move.aside (aside_clock 10)) ⟨trivial, trivial, trivial, rfl⟩).next failed'
        ⟨trivial, ⟨_, by decide +kernel, rfl, rfl, rfl⟩, trivial, rfl⟩, by decide +kernel⟩
  have same : v.count v.start = w.count w.start := rfl
  obtain ⟨inVisits, atCommands⟩ := @as_alone Trial.script
  have two : v.own.length = 2 ∧ w.own.length = 2 := by
    dsimp only [v, w, own, record]
    exact ⟨by decide +kernel, by decide +kernel⟩
  obtain ⟨seen, counts, -⟩ := (inVisits v w same).2.1 (two.1.trans two.2.symm)
  refine ⟨⟨v, w, ?_, ?_, two.1, two.2, ?_, same, seen, counts⟩, ?_⟩
  · dsimp only [v, records, record]
    decide +kernel
  · dsimp only [w, records, record]
    decide +kernel
  · dsimp only [w, count]
    decide +kernel
  · intro commands
    have supplied : (Trial.session [Trial.busy]).Supplied := ⟨by unfold Backed; decide, by decide⟩
    have untagged : ∀ m ∈ [(Trial.other, none), (Trial.message, (none : Option Nat))], m.2 = none :=
      List.forall_mem_cons.mpr ⟨rfl, List.forall_mem_singleton.mpr rfl⟩
    obtain ⟨h, t, done, heeds, visits⟩ := atCommands _ commands fresh supplied rfl (granted .ack)
      (granted .nack) (List.forall_mem_singleton.mpr untagged) (by simp [commands])
      (by simp [commands])
    have unrouted : ∀ c ∈ commands ++ [.settle], Unrouted c :=
      List.forall_mem_cons.mpr ⟨trivial, List.forall_mem_singleton.mpr trivial⟩
    have arrivals : arrivedIn h = [(0, Trial.other), (0, Trial.message)] := done.arrivals unrouted
    have subs : t.subscriptions = [Trial.busy] := by
      refine done.run.subscriptions_eq ?_
      rw [← done.ends]
      decide +kernel
    have distinct : (idsIn h).Nodup := by
      rw [done.run.idsIn_eq, arrivals, subs]
      decide +kernel
    have scripted := heeds (subs ▸ List.forall_mem_singleton.mpr fun _ _ _ => rfl)
    obtain ⟨before, sub, dl, entries, after, split, carries, here⟩ :=
      done.arrives unrouted (m := Trial.message) (List.mem_cons_of_mem _ List.mem_cons_self)
    rw [subs] at here
    obtain rfl : Trial.busy = sub := Option.some.inj here
    refine ⟨h, t, done, scripted, arrivals, ?_⟩
    rw [← carries]
    exact visits scripted distinct _ _ _ _ _ _ split

end Visit
end Courier
