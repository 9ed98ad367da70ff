import Courier.Proofs.Session.Delivery
import Courier.Session.Command

/-! The moves of a session when nobody knows who comes next: deliveries begin, get their answers and
are given back in any order, whatever the clock says. -/
namespace Courier

/-- The id of a message as a subscription reads it. -/
def Subscription.idOf? (sub : Subscription) (m : Message) : Option String :=
  match Envelope.decode sub.consumer.contract.payloadType m.body with
  | .ok e => some e.id
  | .error _ => none

/-- A message that is counted under `id` in a ledger. -/
def Subscription.Carries (sub : Subscription) (ledger : Nat) (id : String) (m : Message) : Prop :=
  sub.ledger = ledger ∧ sub.idOf? m = some id

instance (sub : Subscription) (ledger : Nat) (id : String) (m : Message) :
    Decidable (sub.Carries ledger id m) :=
  inferInstanceAs (Decidable (_ ∧ _))

/-- What a move does: a message arrives from outside or once more, its handler's answer is acted on,
it is given back, or it gets lost because its stream is closed; a stream is closed; a ledger is
called from outside; or something else goes on. -/
inductive Deed where
  | arrived (sub : Subscription) (stream : Nat) (d : Delivery)
  | returned (sub : Subscription) (stream : Nat) (d : Delivery)
  | concluded (sub : Subscription) (stream : Nat) (d : Delivery) (id : String) (answer : Answer)
      (r : Resolution)
  | gaveBack (sub : Subscription) (stream : Nat) (d : Delivery)
  | lost (p : Parcel)
  | closed (stream : Nat)
  | counted (ledger : Nat) (id : String)
  | aside

/-- A deed with what it entered into the journal. -/
structure Record where
  deed : Deed
  entries : List Entry

/-- The message that is handed over, from outside or once more, with its stream. -/
def Deed.handed? : Deed → Option (Nat × Message)
  | .arrived _ n d | .returned _ n d => some (n, d.message)
  | _ => none

/-- The message that arrives from outside, with its stream. -/
def Deed.arrived? : Deed → Option (Nat × Message)
  | .arrived _ n d => some (n, d.message)
  | _ => none

/-- The messages that have been handed over, with their streams. -/
def handOvers (h : List Record) : List (Nat × Message) := h.filterMap (·.deed.handed?)

/-- Those of them that came from outside. -/
def arrivedIn (h : List Record) : List (Nat × Message) := h.filterMap (·.deed.arrived?)

theorem handOvers_append (h : List Record) (r : Record) :
    handOvers (h ++ [r]) = handOvers h ++ r.deed.handed?.toList := by
  unfold handOvers
  rw [List.filterMap_append]
  cases hr : r.deed.handed? <;> simp [hr]

theorem arrivedIn_append (h : List Record) (r : Record) :
    arrivedIn (h ++ [r]) = arrivedIn h ++ r.deed.arrived?.toList := by
  unfold arrivedIn
  rw [List.filterMap_append]
  cases hr : r.deed.arrived? <;> simp [hr]

/-- A message that has arrived did so at some point. -/
theorem split_of_arrivedIn {h : List Record} {n : Nat} {m : Message} (hm : (n, m) ∈ arrivedIn h) :
    ∃ before sub d entries after,
      h = before ++ ⟨.arrived sub n d, entries⟩ :: after ∧ d.message = m := by
  obtain ⟨⟨deed, entries⟩, hr, hd⟩ := List.mem_filterMap.mp hm
  obtain ⟨before, after, rfl⟩ := List.append_of_mem hr
  cases deed with
  | arrived sub stream d =>
    obtain ⟨rfl, carries⟩ := Prod.mk.inj (Option.some.inj hd)
    exact ⟨before, sub, d, entries, after, rfl, carries⟩
  | _ => cases hd

/-- What a ledger has under `id` after a deed, if it had `count` before. -/
def Deed.entered (ledger : Nat) (id : String) (count : Option UInt32) : Deed → Option UInt32
  | .concluded sub _ _ id' _ r =>
    if sub.ledger = ledger ∧ id' = id then r.entered count else count
  | _ => count

namespace Session

/-- What leaves the deliveries and the ledgers alone. The journal may be begun anew. -/
structure Aside (s s' : Session) : Prop where
  ledgers : s'.ledgers = s.ledgers
  tasks : s'.tasks = s.tasks
  inFlight : s'.broker.inFlight = s.broker.inFlight
  returned : s'.broker.returned = s.broker.returned
  handedOver : s'.broker.handedOver = s.broker.handedOver
  redelivers : s'.broker.redelivers = s.broker.redelivers
  faults : ∀ rpc, rpc = .ack ∨ rpc = .nack →
    s'.broker.faults.ahead rpc = s.broker.faults.ahead rpc
  subscriptions : s.subscriptions <+: s'.subscriptions
  streams : s.broker.streams <+: s'.broker.streams
  matched : s.subscriptions.length = s.broker.streams.length →
    s'.subscriptions.length = s'.broker.streams.length
  journal : ∃ old new, (old = s.journal ∨ old = []) ∧ s'.journal = old ++ new ∧
    ∀ e ∈ new, e.delivery = none

inductive Move : Session → Deed → Session → Prop
  | arrive {s sub stream} (message : Message) (tag : Option Nat)
      (hsub : s.subscriptions[stream]? = some sub) (hopen : s.broker.isOpen stream = true) :
      Move s (.arrived sub stream (s.handed stream message tag))
        (s.arrive sub stream message tag)
  | again {s sub} {p : Parcel} (hp : p ∈ s.broker.returned)
      (hsub : s.subscriptions[p.stream]? = some sub) (hopen : s.broker.isOpen p.stream = true) :
      Move s (.returned sub p.stream ((s.takeReturned p).handed p.stream p.message none))
        ((s.takeReturned p).arrive sub p.stream p.message none)
  | conclude {s sub} {t : Task} {id : String} {answer : Answer} (ht : t ∈ s.tasks)
      (hsub : s.subscriptions[t.stream]? = some sub) (hstage : t.stage = .handling id answer) :
      Move s (.concluded sub t.stream t.delivery id answer (s.conclude sub t id answer).1)
        (s.conclude sub t id answer).2
  | giveBack {s sub} {t : Task} (ht : t ∈ s.tasks)
      (hsub : s.subscriptions[t.stream]? = some sub) (hstage : t.stage = .delayed) :
      Move s (.gaveBack sub t.stream t.delivery) ((s.dequeue t).giveBack sub t)
  | lose {s} {p : Parcel} (hp : p ∈ s.broker.returned)
      (hclosed : s.broker.isOpen p.stream = false) :
      Move s (.lost p) (s.takeReturned p)
  | close {s} (stream : Nat) : Move s (.closed stream) (s.close stream)
  | count {s} (ledger : Nat) (id : String) (call : LedgerCall) :
      Move s (.counted ledger id) (s.callLedger ledger id call).2
  | aside {s s'} (h : Aside s s') : Move s .aside s'

section
variable {s s' : Session} {d : Deed}

theorem takeReturned_ledgers (s : Session) (p : Parcel) :
    (s.takeReturned p).ledgers = s.ledgers := rfl

theorem close_eq (s : Session) (stream : Nat) :
    s.close stream = s ∨
      ∃ journal, s.close stream = { s with broker := s.broker.close stream, journal } := by
  unfold close
  split
  · exact Or.inl rfl
  · split
    · exact Or.inr ⟨_, rfl⟩
    · exact Or.inl rfl

theorem close_ledgers (s : Session) (stream : Nat) : (s.close stream).ledgers = s.ledgers := by
  rcases s.close_eq stream with h | ⟨_, h⟩ <;> rw [h]

theorem arrive_ledgers (s : Session) (sub : Subscription) (stream : Nat) (message : Message)
    (tag : Option Nat) : (s.arrive sub stream message tag).ledgers = s.ledgers := by
  cases h : Envelope.decode sub.consumer.contract.payloadType message.body with
  | error e => exact (arrive_error s sub stream message tag h).ledgers
  | ok e => exact (arrive_ok s sub stream message tag h).ledgers

theorem arrive_subscriptions (s : Session) (sub : Subscription) (stream : Nat) (message : Message)
    (tag : Option Nat) : (s.arrive sub stream message tag).subscriptions = s.subscriptions := by
  cases h : Envelope.decode sub.consumer.contract.payloadType message.body with
  | error e => exact (arrive_error s sub stream message tag h).subscriptions
  | ok e => exact (arrive_ok s sub stream message tag h).subscriptions

theorem close_subscriptions (s : Session) (stream : Nat) :
    (s.close stream).subscriptions = s.subscriptions := by
  rcases s.close_eq stream with h | ⟨_, h⟩ <;> rw [h]

theorem close_tasks (s : Session) (stream : Nat) : (s.close stream).tasks = s.tasks := by
  rcases s.close_eq stream with h | ⟨_, h⟩ <;> rw [h]

theorem close_returned (s : Session) (stream : Nat) :
    (s.close stream).broker.returned = s.broker.returned := by
  rcases s.close_eq stream with h | ⟨_, h⟩
  · rw [h]
  · rw [h]
    rfl

theorem close_inFlight (s : Session) (stream : Nat) :
    (s.close stream).broker.inFlight = s.broker.inFlight := by
  rcases s.close_eq stream with h | ⟨_, h⟩
  · rw [h]
  · rw [h]
    rfl

theorem callLedger_length (s : Session) (number : Nat) (id : String) (call : LedgerCall) :
    (s.callLedger number id call).2.ledgers.length = s.ledgers.length := by
  cases call with
  | get => rfl
  | increment => exact List.length_set
  | remove => exact List.length_set

theorem Move.ledgers_length (m : Move s d s') : s'.ledgers.length = s.ledgers.length := by
  cases m with
  | arrive => rw [arrive_ledgers]
  | again => rw [arrive_ledgers, takeReturned_ledgers]
  | conclude => rw [(conclude_effect _ _ _ _ _).2.ledgers, List.length_set]
  | giveBack => rw [(giveBack_effect _ _ _).ledgers]
  | lose => rw [takeReturned_ledgers]
  | close => rw [close_ledgers]
  | count => exact callLedger_length _ _ _ _
  | aside h => rw [h.ledgers]

/-- A conclusion follows the verdict on the answer. -/
theorem Move.verdict_eq {sub : Subscription} {stream : Nat} {dl : Delivery} {id : String}
    {answer : Answer} {r : Resolution} (m : Move s (.concluded sub stream dl id answer r) s') :
    r = s.verdict sub id answer := by
  cases m with
  | conclude => exact (conclude_effect _ _ _ _ _).1

/-- Messages arrive at open streams. -/
theorem Move.arrived_at {sub : Subscription} {stream : Nat} {dl : Delivery}
    (m : Move s (.arrived sub stream dl) s') :
    s.subscriptions[stream]? = some sub ∧ s.broker.isOpen stream = true := by
  cases m with
  | arrive _ _ hsub hopen => exact ⟨hsub, hopen⟩

theorem ledger_eq_of_ledgers_eq {ledgers : List Ledger} (h : s'.ledgers = ledgers) (n : Nat) :
    s'.ledger n = { s with ledgers }.ledger n := by
  unfold ledger
  rw [h]

theorem callLedger_count? (s : Session) {number number' : Nat} {id id' : String}
    (call : LedgerCall) (h : ¬ (number' = number ∧ id' = id)) (hn : number < s.ledgers.length) :
    ((s.callLedger number' id' call).2.ledger number).count? id = (s.ledger number).count? id := by
  by_cases he : number' = number
  · subst he
    have hid : id' ≠ id := fun e => h ⟨rfl, e⟩
    cases call with
    | get => rfl
    | increment times =>
      refine (congrArg (·.count? id) (ledger_set_self s _ hn)).trans ?_
      exact Ledger.count?_incrementTimes_of_ne _ hid times
    | remove =>
      refine (congrArg (·.count? id) (ledger_set_self s _ hn)).trans ?_
      rw [Ledger.count?_remove, if_neg hid]
  · cases call with
    | get => rfl
    | increment => exact congrArg (·.count? id) (ledger_set_of_ne s _ he)
    | remove => exact congrArg (·.count? id) (ledger_set_of_ne s _ he)

theorem conclude_count? (s : Session) (sub : Subscription) (t : Task) (id' : String)
    (answer : Answer) {number : Nat} (id : String) (hn : number < s.ledgers.length) :
    ((s.conclude sub t id' answer).2.ledger number).count? id =
      if sub.ledger = number ∧ id' = id then
        (s.conclude sub t id' answer).1.entered ((s.ledger number).count? id)
      else (s.ledger number).count? id := by
  obtain ⟨hv, he⟩ := conclude_effect s sub t id' answer
  rw [hv, ledger_eq_of_ledgers_eq (s := s) he.ledgers]
  by_cases hl : sub.ledger = number
  · subst hl
    rw [ledger_set_self s _ hn, Ledger.count?_resolve]
    simp
  · rw [ledger_set_of_ne s _ hl]
    simp [hl]

/-- Deliveries change a ledger by their conclusions alone. -/
theorem Move.count?_eq {ledger : Nat} {id : String} (m : Move s d s')
    (hl : ledger < s.ledgers.length) (hd : d ≠ .counted ledger id) :
    (s'.ledger ledger).count? id = d.entered ledger id ((s.ledger ledger).count? id) := by
  have same : ∀ {s' : Session}, s'.ledgers = s.ledgers →
      (s'.ledger ledger).count? id = (s.ledger ledger).count? id := fun h =>
    congrArg (·.count? id) (ledger_eq_of_ledgers_eq (s := s) h ledger)
  cases m with
  | arrive => exact same (arrive_ledgers _ _ _ _ _)
  | again => exact same (arrive_ledgers _ _ _ _ _)
  | conclude => exact conclude_count? s _ _ _ _ id hl
  | giveBack => exact same (giveBack_effect _ _ _).ledgers
  | lose => exact same rfl
  | close => exact same (close_ledgers _ _)
  | count number id' call =>
    exact callLedger_count? s call (fun h => hd (by rw [h.1, h.2])) hl
  | aside h => exact same h.ledgers

theorem Move.subscriptions_prefix (m : Move s d s') : s.subscriptions <+: s'.subscriptions := by
  have same : ∀ {s' : Session}, s'.subscriptions = s.subscriptions →
      s.subscriptions <+: s'.subscriptions := fun h => h ▸ List.prefix_rfl
  cases m with
  | arrive => exact same (arrive_subscriptions _ _ _ _ _)
  | again => exact same (arrive_subscriptions _ _ _ _ _)
  | conclude => exact same (conclude_effect _ _ _ _ _).2.subscriptions
  | giveBack => exact same (giveBack_effect _ _ _).subscriptions
  | lose => exact same rfl
  | close => exact same (close_subscriptions _ _)
  | count _ _ call => cases call <;> exact same rfl
  | aside h => exact h.subscriptions

end

/-- Moves one after the other, each of them allowed in its situation. -/
inductive Run (allowed : Session → Deed → Prop) (s : Session) : List Record → Session → Prop
  | start : Run allowed s [] s
  | next {h s' d s''} (run : Run allowed s h s') (move : Move s' d s'') (ok : allowed s' d) :
      Run allowed s (h ++ [⟨d, s'.since s''⟩]) s''

section
variable {allowed : Session → Deed → Prop} {s s' : Session} {h : List Record}

/-- What every allowed move keeps, a run keeps. -/
theorem Run.keeps {P : Session → Prop} (run : Run allowed s h s')
    (step : ∀ {s d s'}, P s → allowed s d → Move s d s' → P s') (hs : P s) : P s' := by
  induction run with
  | start => exact hs
  | next _ move ok ih => exact step ih ok move

/-- Where there are no more subscriptions than before, they are the same. -/
theorem Run.subscriptions_eq (run : Run allowed s h s')
    (length : s'.subscriptions.length = s.subscriptions.length) :
    s'.subscriptions = s.subscriptions := by
  have kept := run.keeps (P := fun t => s.subscriptions <+: t.subscriptions)
    (fun kept _ move => kept.trans move.subscriptions_prefix) List.prefix_rfl
  exact (kept.eq_of_length length.symm).symm

theorem Run.mono {allowed' : Session → Deed → Prop} (run : Run allowed s h s')
    (weaker : ∀ s d, allowed s d → allowed' s d) : Run allowed' s h s' := by
  induction run with
  | start => exact .start
  | next _ move ok ih => exact .next ih move (weaker _ _ ok)

theorem Run.append {s'' : Session} {h' : List Record} (run : Run allowed s h s')
    (run' : Run allowed s' h' s'') : Run allowed s (h ++ h') s'' := by
  induction run' with
  | start => simpa using run
  | next _ move ok ih =>
    rw [← List.append_assoc]
    exact .next ih move ok

/-- A run can be taken apart at any of its records. -/
theorem Run.split {r : Record} {h₁ h₂ : List Record} (run : Run allowed s (h₁ ++ r :: h₂) s') :
    ∃ s₁ s₂, Run allowed s h₁ s₁ ∧ Move s₁ r.deed s₂ ∧ allowed s₁ r.deed ∧
      r.entries = s₁.since s₂ ∧ Run allowed s₂ h₂ s' := by
  generalize hg : h₁ ++ r :: h₂ = g at run
  induction run generalizing h₂ with
  | start => cases List.append_ne_nil_of_right_ne_nil h₁ (List.cons_ne_nil r h₂) hg
  | @next g t d t' run m ok ih =>
    -- The record is the last one, or the last one comes after it.
    rcases List.eq_nil_or_concat h₂ with rfl | ⟨h₃, last, rfl⟩
    · obtain ⟨rfl, hlast⟩ := List.append_inj' hg rfl
      obtain rfl := List.singleton_inj.mp hlast
      exact ⟨t, t', run, m, ok, rfl, .start⟩
    · rw [List.concat_eq_append, ← List.cons_append, ← List.append_assoc] at hg
      obtain ⟨hbefore, hlast⟩ := List.append_inj' hg rfl
      obtain rfl := List.singleton_inj.mp hlast
      obtain ⟨s₁, s₂, first, move, hok, hentries, rest⟩ := ih hbefore
      rw [List.concat_eq_append]
      exact ⟨s₁, s₂, first, move, hok, hentries, rest.next m ok⟩

/-- What holds wherever such a run can get to may be asked for on the way. -/
theorem Run.within {P : Session → Prop} (run : Run allowed s h s')
    (all : ∀ g t, Run allowed s g t → P t) : Run (fun s d => allowed s d ∧ P s) s h s' := by
  induction run with
  | start => exact .start
  | next run m ok ih => exact ih.next m ⟨ok, all _ _ run⟩

/-- What is true of all deeds of a run may be asked for on the way. -/
theorem Run.among {Q : Deed → Prop} (run : Run allowed s h s') (all : ∀ r ∈ h, Q r.deed) :
    Run (fun s d => allowed s d ∧ Q d) s h s' := by
  induction run with
  | start => exact .start
  | next _ m ok ih =>
    have hlast := all _ (List.mem_append_right _ (List.mem_singleton_self _))
    exact (ih fun r hr => all r (List.mem_append_left _ hr)).next m ⟨ok, hlast⟩

/-- Where nothing may arrive, nothing does. -/
theorem Run.arrives_nothing (run : Run allowed s h s')
    (never : ∀ s sub stream d, ¬ allowed s (.arrived sub stream d)) : arrivedIn h = [] := by
  induction run with
  | start => rfl
  | @next h s₁ d s₂ run m ok ih =>
    rw [arrivedIn_append, ih]
    cases d with
    | arrived => exact absurd ok (never _ _ _ _)
    | _ => rfl

theorem Run.single {d : Deed} (move : Move s d s') (ok : allowed s d) :
    Run allowed s [⟨d, s.since s'⟩] s' :=
  .next .start move ok

end

theorem getElem?_of_prefix {subs subs' : List Subscription} (h : subs <+: subs') {n : Nat}
    {sub : Subscription} (hn : subs[n]? = some sub) : subs'[n]? = some sub := by
  obtain ⟨new, rfl⟩ := h
  rw [List.getElem?_append_left (List.getElem?_eq_some_iff.mp hn).1]
  exact hn

theorem Move.known {s s' : Session} {d : Deed} (m : Move s d s') {n : Nat} {sub : Subscription}
    (h : s.subscriptions[n]? = some sub) : s'.subscriptions[n]? = some sub :=
  getElem?_of_prefix m.subscriptions_prefix h

theorem Move.concludes {s : Session} {sub : Subscription} {t : Task} {id : String} {answer : Answer}
    {r : Resolution} (ht : t ∈ s.tasks) (hsub : s.subscriptions[t.stream]? = some sub)
    (hstage : t.stage = .handling id answer) (hr : (s.conclude sub t id answer).1 = r) :
    Move s (.concluded sub t.stream t.delivery id answer r) (s.conclude sub t id answer).2 :=
  hr ▸ .conclude ht hsub hstage

end Session

/-! A message, subscriptions and sessions to try moves on. -/
namespace Trial

def message : Message := ⟨[], (⟨"i", .text "x"⟩ : Envelope).toValue.bytes⟩

def failure : Answer := .failed "no"

/-- A contract that allows `limit` retries. Its handler fails `failures` times. -/
def contract (failures : Nat) (limit : UInt32) : Contract where
  payloadType := .text
  exchange := .unnamed
  moduleName := "m"
  queueName := "q"
  businessDate := "2023-08-03"
  handler := ⟨fun _ n => ⟨0, if n ≤ failures then failure else .done⟩, fun _ => ⟨0, .ok ()⟩, true⟩
  maxRetry := limit

/-- A contract for the messages of an exchange. -/
def contractAt (exchange : Exchange) : Contract := { contract 0 0 with exchange }

def subscription (failures : Nat) (limit : UInt32) : Subscription :=
  ⟨⟨"c", contract failures limit, "q"⟩, 0⟩

/-- Nothing has arrived yet. -/
def session (subs : List Subscription) : Session where
  env := "dev"
  broker := { redelivers := true, streams := subs.map fun _ => ⟨"q", true⟩ }
  ledgers := [{}]
  subscriptions := subs

/-- A delivery of the message that waits for its handler. -/
def task (serial stream : Nat) (answer : Answer) : Task :=
  ⟨serial, stream, ⟨serial, message⟩, 0, .handling "i" answer⟩

end Trial
end Courier
