import Courier.Proofs.Retry.Ending
import Courier.Proofs.Session.Punctual

/-! At commands that leave it to the broker to number deliveries, a session makes moves that these
commands cause, and each delivery goes on when it is due, whatever is asked for meanwhile. The clock
passes over none of them. -/
namespace Courier

/-- All that was entered into the journal in a run. -/
def journalOf (h : List Record) : List Entry := h.flatMap (·.entries)

theorem journalOf_append (h g : List Record) : journalOf (h ++ g) = journalOf h ++ journalOf g :=
  List.flatMap_append

namespace Session

/-- Each ledger that a subscription or a dispatcher uses is there. -/
structure Supplied (s : Session) : Prop where
  backed : s.Backed
  dispatchers : ∀ d ∈ s.dispatchers, d.ledger < s.ledgers.length

/-- What holds whenever the clock is right. -/
structure Orderly (s : Session) : Prop where
  sound : s.Sound
  timely : s.Timely
  numbered : s.Numbered
  tagged : s.Tagged
  supplied : s.Supplied

/-- Deeds under fresh tags, at the time they are due. -/
def InTime (s : Session) (d : Deed) : Prop := s.FreshTag d ∧ s.Punctual d

/-- A session gets to another by such deeds, each at its time, and everything on the way is in the
journal. -/
structure ByClock (allowed : Session → Deed → Prop) (s : Session) (h : List Record) (s' : Session) :
    Prop where
  orderly : s'.Orderly
  journal : s.journal <+: s'.journal
  run : Run (fun s d => allowed s d ∧ s.InTime d) s h s'
  told : journalOf h = s.since s'

/-- One of the commands causes a deed, and it comes at its time. -/
def CausedBy (commands : List Command) (s : Session) (d : Deed) : Prop :=
  (∃ c ∈ commands, Causes c s d) ∧ s.InTime d

/-- What a command delivers to an open stream, with that stream. -/
def delivers (s : Session) : Command → List (Nat × Message)
  | .deliver n messages => if s.broker.isOpen n then messages.map fun m => (n, m.1) else []
  | _ => []

/-- What commands deliver to open streams, in their order. -/
def delivered (s : Session) : List Command → List (Nat × Message)
  | [] => []
  | c :: rest => s.delivers c ++ (s.step c).2.delivered rest

/-- A command at which the broker has nothing to route. -/
def Unrouted : Command → Prop
  | .publish .. => False
  | _ => True

/-- What a session does at commands: they cause its moves, and their journals tell of all these. As
long as nothing is published, what arrives is what they deliver. -/
structure CarriesOut (s : Session) (commands : List Command) (h : List Record) (s' : Session) :
    Prop where
  ends : commands.foldl (fun s c => (s.step c).2) s = s'
  run : Run (CausedBy commands) s h s'
  told : journalOf h = s.told commands
  arrivals : (∀ c ∈ commands, Unrouted c) → arrivedIn h = s.delivered commands

section
variable {allowed allowed' : Session → Deed → Prop} {s s' s'' : Session} {d : Deed}
  {h g : List Record}

theorem Stirs.numbers (hd : s.Stirs d) : s.Numbers d := by
  cases d with
  | returned => exact hd
  | arrived => exact hd.elim
  | _ => trivial

/-- Only a command to do so closes a stream. -/
theorem CausedBy.close_mem {commands : List Command} {n : Nat}
    (h : CausedBy commands s (.closed n)) : .close n ∈ commands := by
  obtain ⟨⟨c, hc, caused⟩, -⟩ := h
  have same : c = .close n := caused
  exact same ▸ hc

/-- Only a command to do so calls a ledger from outside. -/
theorem CausedBy.ledger_mem {commands : List Command} {ledger : Nat} {id : String}
    (h : CausedBy commands s (.counted ledger id)) : ∃ n call, .ledger n call id ∈ commands := by
  obtain ⟨⟨c, hc, n, call, rfl⟩, -⟩ := h
  exact ⟨n, call, hc⟩

/-- New subscriptions and dispatchers use ledgers that are there. -/
theorem Supplied.change (hs : s.Supplied) (ledgers : s'.ledgers.length = s.ledgers.length)
    (subs : ∀ sub ∈ s'.subscriptions, sub ∈ s.subscriptions ∨ sub.ledger < s.ledgers.length)
    (dispatchers : ∀ d ∈ s'.dispatchers, d ∈ s.dispatchers ∨ d.ledger < s.ledgers.length) :
    s'.Supplied where
  backed sub hsub := ledgers ▸ (subs sub hsub).elim (hs.backed sub) id
  dispatchers d hd := ledgers ▸ (dispatchers d hd).elim (hs.dispatchers d) id

theorem Supplied.of_eq (hs : s.Supplied) (subs : s'.subscriptions = s.subscriptions)
    (dispatchers : s'.dispatchers = s.dispatchers)
    (ledgers : s'.ledgers.length = s.ledgers.length) : s'.Supplied :=
  hs.change ledgers (fun _ hsub => .inl (subs ▸ hsub)) fun _ hd => .inl (dispatchers ▸ hd)

section
variable {before after : List Record} {sub : Subscription} {stream : Nat} {dl : Delivery}
  {entries : List Entry}

/-- Messages arrive at the subscription of their stream. -/
theorem Run.known_of_arrival
    (run : Run allowed s (before ++ ⟨.arrived sub stream dl, entries⟩ :: after) s') :
    s'.subscriptions[stream]? = some sub := by
  obtain ⟨s₁, s₂, -, first, -, -, rest⟩ := run.split
  exact rest.keeps (P := fun t => t.subscriptions[stream]? = some sub) (fun h _ m => m.known h)
    (first.known first.arrived_at.1)

/-- Which ids arrive can be told from the messages that arrive and the subscriptions there are. -/
theorem Run.idsIn_eq (run : Run allowed s h s') :
    idsIn h = (arrivedIn h).filterMap fun a =>
      s'.subscriptions[a.1]?.bind fun sub => (sub.idOf? a.2).map (sub.ledger, ·) := by
  unfold idsIn arrivedIn
  rw [List.filterMap_filterMap]
  refine List.filterMap_congr fun r hr => ?_
  obtain ⟨before, after, rfl⟩ := List.append_of_mem hr
  obtain ⟨d, entries⟩ := r
  cases d with
  | arrived sub n dl =>
    change _ = s'.subscriptions[n]?.bind _
    rw [run.known_of_arrival]
    rfl
  | _ => rfl

/-- The ledger in which an arrival is counted is there from the start. -/
theorem Run.bound_of_arrival
    (run : Run allowed s (before ++ ⟨.arrived sub stream dl, entries⟩ :: after) s')
    (backed : s'.Backed) : sub.ledger < s.ledgers.length := by
  rw [← run.ledgers_length]
  exact backed sub (List.mem_of_getElem? run.known_of_arrival)

end

/-- As long as nothing is done aside, everything is in the journal. -/
theorem Run.stays (run : Run allowed s h s') (never : ∀ s, ¬ allowed s .aside) :
    s.Stays s' ∧ journalOf h = s.since s' := by
  induction run with
  | start => exact ⟨.refl s, (since_self s).symm⟩
  | @next h s₁ d s₂ run m ok ih =>
    obtain ⟨stays, entries⟩ := ih
    have hd : d ≠ .aside := by
      rintro rfl
      exact never _ ok
    have last := m.stays hd
    refine ⟨stays.trans last, ?_⟩
    rw [journalOf_append, entries, since_trans stays.journal last.journal]
    exact congrArg (_ ++ ·) (List.append_nil _)

theorem ByClock.refl (hs : s.Orderly) : ByClock allowed s [] s :=
  ⟨hs, List.prefix_rfl, .start, (since_self s).symm⟩

theorem ByClock.mono (done : ByClock allowed s h s')
    (weaker : ∀ s d, allowed s d → allowed' s d) : ByClock allowed' s h s' :=
  ⟨done.orderly, done.journal, done.run.mono fun s d hd => ⟨weaker s d hd.1, hd.2⟩, done.told⟩

theorem ByClock.trans (first : ByClock allowed s h s') (rest : ByClock allowed s' g s'') :
    ByClock allowed s (h ++ g) s'' := by
  refine ⟨rest.orderly, first.journal.trans rest.journal, first.run.append rest.run, ?_⟩
  rw [journalOf_append, first.told, rest.told, since_trans first.journal rest.journal]

/-- Deliveries that do not go on before they are due go on by the clock, as long as nothing is done
aside. -/
theorem Run.byClock (due : Run (Due allowed) s h s') (hs : s.Orderly)
    (numbers : ∀ s d, allowed s d → s.Numbers d) (never : ∀ s, ¬ allowed s .aside) :
    ByClock allowed s h s' := by
  obtain ⟨punctual, timely⟩ := due.punctual hs.timely never
  obtain ⟨stays, entries⟩ := due.stays fun s hd => never s hd.1
  have fresh := punctual.fresh hs.numbered fun s d hd => numbers s d hd.1
  have run : Run (fun s d => allowed s d ∧ s.InTime d) s h s' :=
    fresh.mono fun _ _ hd => ⟨hd.1.1, hd.2, hd.1.2⟩
  refine ⟨⟨run.sound hs.sound, timely, ?_, run.tagged (fun _ _ hd => hd.2.1) hs.tagged, ?_⟩,
    stays.journal, run, entries⟩
  · exact due.keeps (fun hn ok m => hn.move m (numbers _ _ ok.1)) hs.numbered
  · exact hs.supplied.of_eq stays.subscriptions stays.dispatchers stays.ledgers

theorem Orderly.aside (hs : s.Orderly) (ha : s.Aside s') (timely : s'.Timely)
    (supplied : s'.Supplied) : s'.Orderly :=
  ⟨hs.sound.move (.aside ha), timely, hs.numbered.move (.aside ha) trivial,
    hs.tagged.move (.aside ha) trivial, supplied⟩

theorem Aside.byClock (ha : s.Aside s') (hs : s.Orderly) (journal : s.journal <+: s'.journal)
    (timely : s'.Timely) (supplied : s'.Supplied) (ok : allowed s .aside) :
    ∃ h, ByClock allowed s h s' :=
  ⟨_, hs.aside ha timely supplied, journal, Run.single (.aside ha) ⟨ok, trivial, trivial⟩,
    List.append_nil _⟩

/-- Work aside takes no time. -/
theorem act_byClock {α : Type} (hs : s.Orderly) (ledger : Nat) (c : Contract) {w : StateM Desk α}
    (hw : Harmless w) (ok : allowed s .aside) :
    ∃ h, ByClock allowed s h (s.act ledger none c.handler w).2 :=
  (act_aside s ledger c.handler hw).byClock hs (List.prefix_append _ _) hs.timely
    (hs.supplied.of_eq rfl rfl List.length_set) ok

/-! The clock. -/

theorem proceed_byClock (hs : s.Orderly) {t : Task} (ht : t ∈ s.tasks) (hdue : t.due ≤ s.now) :
    ∃ h, ByClock Inner s h ((s.dequeue t).proceed t) := by
  obtain ⟨h, works⟩ := proceed_reaches hs.sound ht hdue
  have done := works.byClock hs (fun _ _ hd => hd.stirs.numbers) fun _ => id
  exact ⟨h, done.mono fun _ _ => Works.inner⟩

theorem redeliver_byClock (hs : s.Orderly) (hr : s.broker.returned ≠ []) :
    ∃ h, ByClock Inner s h s.redeliver := by
  obtain ⟨h, -, stirs⟩ := redeliver_goesOn hs.sound hr
  have done := stirs.byClock hs (fun _ _ hd => hd.numbers) fun _ => id
  exact ⟨h, done.mono fun _ _ => Stirs.inner⟩

theorem clock_byClock (hs : s.Orderly) {now : Nat} (timely : ({ s with now } : Session).Timely) :
    ∃ h, ByClock Inner s h { s with now } :=
  (aside_clock now).byClock hs List.prefix_rfl timely (hs.supplied.of_eq rfl rfl rfl) trivial

theorem next?_byClock (hs : s.Orderly) {horizon : Option Nat} (h : s.next? horizon = some s') :
    ∃ h, ByClock Inner s h s' := by
  cases next?_next h with
  | proceeds ht hdue => exact proceed_byClock hs ht hdue
  | redelivers _ hr => exact redeliver_byClock hs hr
  | passes _ hdue => exact clock_byClock hs (timely_at_nextDue hdue)

theorem runFor_byClock (hs : s.Orderly) (horizon : Option Nat) (fuel : Nat) :
    ∃ h, ByClock Inner s h (s.runFor horizon fuel) := by
  induction fuel generalizing s with
  | zero => exact ⟨[], .refl hs⟩
  | succ fuel ih =>
    unfold runFor
    split
    · exact ⟨[], .refl hs⟩
    · next s₁ h =>
      obtain ⟨h, first⟩ := next?_byClock hs h
      obtain ⟨g, rest⟩ := ih first.orderly
      exact ⟨h ++ g, first.trans rest⟩

theorem run_byClock (hs : s.Orderly) (horizon : Option Nat) :
    ∃ h, ByClock Inner s h (s.run horizon) := runFor_byClock hs horizon _

/-- The clock does not stop before a delivery that is due up to the horizon. -/
theorem Orderly.run_ahead (hs : s.Orderly) (horizon : Option Nat) {t : Task}
    (ht : t ∈ (s.run horizon).tasks) :
    (s.run horizon).now < t.due ∧ ∃ limit, horizon = some limit ∧ limit < t.due :=
  (stopped_of_next? (run_stops horizon hs.sound hs.supplied.backed
    (hs.numbered.faithful hs.tagged))).2 t ht

theorem advance_byClock (hs : s.Orderly) (ms : Nat) : ∃ h, ByClock Inner s h (s.advance ms) := by
  obtain ⟨h, first⟩ := run_byClock hs (some (s.now + ms))
  have timely : (s.advance ms).Timely := by
    intro t ht
    obtain ⟨-, limit, hlimit, later⟩ := hs.run_ahead _ ht
    cases hlimit
    exact Nat.le_of_lt later
  obtain ⟨g, rest⟩ := clock_byClock first.orderly timely
  exact ⟨h ++ g, first.trans rest⟩

theorem waited_byClock (hs : s.Orderly) (ms : Nat) : ∃ h, ByClock Inner s h (s.waited ms) := by
  unfold waited
  split
  · exact ⟨[], .refl hs⟩
  · exact advance_byClock hs _

/-! Commands. -/

/-- What a command brings about goes by the clock, if it leaves it to the broker to number
deliveries. -/
theorem Run.caused {c : Command} (due : Run (Due fun s d => Causes c s d ∧ d ≠ .aside) s h s')
    (hs : s.Orderly) (untagged : Untagged c) : ByClock (Causes c) s h s' := by
  have caused := due.byClock hs (fun _ _ hd => hd.1.numbers untagged) fun _ hd => hd.2 rfl
  exact caused.mono fun _ _ hd => hd.1

theorem ByClock.causes (done : ByClock Inner s h s') (c : Command) : ByClock (Causes c) s h s' :=
  done.mono fun _ _ hd => hd.causes c

theorem deliver_byClock (hs : s.Orderly) (n : Nat) {messages : List (Message × Option Nat)}
    (untagged : Untagged (.deliver n messages)) :
    ∃ h, ByClock (Causes (.deliver n messages)) s h (s.deliver n messages).2 ∧
      arrivedIn h = s.delivers (.deliver n messages) := by
  have arrives : ∀ s sub message tag, (message, tag) ∈ messages →
      Due (fun s d => Causes (.deliver n messages) s d ∧ d ≠ .aside) s
        (.arrived sub n (s.handed n message tag)) :=
    fun s sub message tag hm => ⟨⟨⟨rfl, tag, hm, rfl⟩, Deed.noConfusion⟩, trivial⟩
  obtain ⟨h, due, -, arrivals⟩ :=
    deliver_hands messages hs.sound arrives fun _ _ hd => ⟨hd.1.causes _, hd.2⟩
  exact ⟨h, due.caused hs untagged, arrivals⟩

section
variable (label : String) (c : Contract) (broadcast : Bool) (context : List (String × String))
  (payload : Payload)

theorem route_byClock (hs : s.Orderly) :
    ∃ h, ByClock (Causes (.publish label c broadcast context payload)) s h s.route := by
  obtain ⟨h, first⟩ : ∃ h, ByClock (Causes (.publish label c broadcast context payload)) s h
      { s with broker.postings := [] } :=
    aside_unrouted.byClock hs List.prefix_rfl hs.timely (hs.supplied.of_eq rfl rfl rfl) trivial
  obtain ⟨g, due⟩ : Reaches
      (Due fun s d => Causes (.publish label c broadcast context payload) s d ∧ d ≠ .aside)
      { s with broker.postings := [] } s.route := by
    refine postings_reach s.broker.postings first.orderly.sound ?_ ?_ ?_
    · exact fun _ _ _ _ => ⟨⟨rfl, Deed.noConfusion⟩, trivial⟩
    · exact fun _ _ hd => ⟨hd.1.causes _, hd.2⟩
    · exact fun _ _ hd => Command.noConfusion hd.1.1
  exact ⟨h ++ g, first.trans (due.caused first.orderly trivial)⟩

theorem publish_byClock (hs : s.Orderly) :
    ∃ h, ByClock (Causes (.publish label c broadcast context payload)) s h
      (s.publish label c broadcast context payload).2 := by
  have works : ∀ {α : Type} {w : StateM Desk α} {s : Session}, Harmless w → s.Orderly →
      ∃ h, ByClock (Causes (.publish label c broadcast context payload)) s h (s.work c w).2 :=
    fun hw hs => act_byClock hs _ c hw trivial
  obtain ⟨h₁, keyed⟩ := works (Made.routingKey c s.env broadcast).plain.harmless hs
  cases hkey : (s.work c (c.routingKey s.env broadcast).run).1 with
  | error e =>
    rw [publish_of_error s label c context payload hkey]
    exact ⟨h₁, keyed⟩
  | ok key =>
    rw [publish_of_key s label c context payload hkey]
    unfold publishUnder
    dsimp only
    obtain ⟨h₂, enclosed⟩ := works (Made.enclose c label payload).harmless keyed.orderly
    generalize (Session.work _ c (c.enclose label payload)).1 = enclosure
    obtain ⟨e, attempt⟩ := enclosure
    obtain ⟨h₃, waited⟩ := waited_byClock enclosed.orderly attempt.wait
    obtain ⟨h₄, sent⟩ :=
      works (Made.send c key context e attempt.result).plain.harmless waited.orderly
    obtain ⟨h₅, routed⟩ := route_byClock label c broadcast context payload sent.orderly
    exact ⟨_, (((keyed.trans enclosed).trans (waited.causes _)).trans sent).trans routed⟩

end

/-- A new subscription uses the ledger of its dispatcher. -/
theorem register_supplied (hs : s.Supplied) (label : String) (c : Contract) (n : Nat) :
    (s.register label c n).2.now = s.now ∧ s.journal <+: (s.register label c n).2.journal ∧
      (s.register label c n).2.Supplied := by
  cases hd : s.dispatchers[n]? with
  | none =>
    unfold register
    rw [hd]
    exact ⟨rfl, List.prefix_rfl, hs⟩
  | some d =>
    have own := hs.dispatchers d (List.mem_of_getElem? hd)
    have dispatchers : ∀ registry, ∀ d' ∈ s.dispatchers.set n { d with registry },
        d' ∈ s.dispatchers ∨ d'.ledger < s.ledgers.length := by
      intro registry d' hd'
      refine (List.mem_or_eq_of_mem_set hd').imp_right fun he => ?_
      rw [he]
      exact own
    unfold register
    rw [hd]
    unfold act
    dsimp only
    generalize (c.register s.env d.registry).run (s.desk d.ledger) = out
    obtain ⟨⟨_ | _, registry⟩, desk⟩ := out
    · exact ⟨rfl, List.prefix_append _ _,
        hs.change List.length_set (fun _ => .inl) (dispatchers registry)⟩
    · refine ⟨rfl, List.prefix_append _ _,
        hs.change List.length_set (fun sub hsub => ?_) (dispatchers registry)⟩
      refine (List.mem_append.mp hsub).imp_right fun hsub => ?_
      rw [List.mem_singleton.mp hsub]
      exact own

theorem register_byClock (hs : s.Orderly) (label : String) (c : Contract) (n : Nat) :
    ∃ h, ByClock Inner s h (s.register label c n).2 := by
  have ha := register_aside s label c n
  obtain ⟨now, journal, supplied⟩ := register_supplied hs.supplied label c n
  exact ha.byClock hs journal (hs.timely.same ha.tasks now) supplied trivial

theorem streamError_byClock (hs : s.Orderly) (n : Nat) (e : BrokerError) :
    ∃ h, ByClock Inner s h (s.streamError n e) := by
  have ha : s.Aside (s.streamError n e) := aside_streamError n e
  unfold streamError at ha ⊢
  split
  · next ho =>
    rw [if_pos ho] at ha
    exact ha.byClock hs (List.prefix_append _ _) hs.timely (hs.supplied.of_eq rfl rfl rfl) trivial
  · exact ⟨[], .refl hs⟩

theorem perform_byClock (hs : s.Orderly) {c : Command} (untagged : Untagged c) :
    ∃ h, ByClock (Causes c) s h (s.perform c).2 := by
  have once : ∀ {d : Deed} {s' : Session}, Move s d s' → Causes c s d → d ≠ .aside → s.Ripe d →
      ∃ h, ByClock (Causes c) s h s' := fun m caused aside ripe =>
    ⟨_, (Run.single m ⟨⟨caused, aside⟩, ripe⟩).caused hs untagged⟩
  have inner : ∀ {s' : Session}, (∃ h, ByClock Inner s h s') → ∃ h, ByClock (Causes c) s h s' :=
    fun ⟨h, done⟩ => ⟨h, done.causes c⟩
  cases c with
  | address | environment => exact ⟨[], .refl hs⟩
  | validate c => exact act_byClock hs _ c (Made.inspect c).plain.harmless trivial
  | declare c => exact act_byClock hs _ c (Made.declare c s.env).plain.harmless trivial
  | register label c n => exact inner (register_byClock hs label c n)
  | publish label c broadcast context payload =>
    exact publish_byClock label c broadcast context payload hs
  | deliver n messages =>
    obtain ⟨h, done, -⟩ := deliver_byClock hs n untagged
    exact ⟨h, done⟩
  | streamError n e => exact inner (streamError_byClock hs n e)
  | close n => exact once (Move.close n) rfl Deed.noConfusion trivial
  | advance ms => exact inner (advance_byClock hs ms)
  | settle => exact inner (run_byClock hs none)
  | ledger dispatcher call id =>
    exact once (Move.count (s.ledgerOf dispatcher) id call) ⟨dispatcher, call, rfl⟩
      Deed.noConfusion trivial

/-- What arrives at a command is what it delivers. -/
theorem perform_arrives (hs : s.Orderly) {c : Command} (untagged : Untagged c) :
    ∃ h, ByClock (Causes c) s h (s.perform c).2 ∧ (Unrouted c → arrivedIn h = s.delivers c) := by
  cases c with
  | deliver n messages =>
    obtain ⟨h, done, arrivals⟩ := deliver_byClock hs n untagged
    exact ⟨h, done, fun _ => arrivals⟩
  | publish =>
    obtain ⟨h, done⟩ := perform_byClock hs untagged
    exact ⟨h, done, False.elim⟩
  | _ =>
    obtain ⟨h, done⟩ := perform_byClock hs untagged
    exact ⟨h, done, fun _ => done.run.arrives_nothing fun _ _ _ _ hd => hd.1⟩

theorem Orderly.begun (hs : s.Orderly) : ({ s with journal := [] } : Session).Orderly :=
  hs.aside aside_journal hs.timely (hs.supplied.of_eq rfl rfl rfl)

/-- After a command no delivery is due. -/
theorem step_byClock (hs : s.Orderly) {c : Command} (untagged : Untagged c) :
    ∃ h, ByClock (Causes c) { s with journal := [] } h (s.step c).2 ∧
      (Unrouted c → arrivedIn h = s.delivers c) ∧
      ∀ t ∈ (s.step c).2.tasks, (s.step c).2.now < t.due := by
  obtain ⟨h, done, arrivals⟩ := perform_arrives hs.begun untagged
  obtain ⟨g, rest⟩ :=
    run_byClock done.orderly (some (Session.perform { s with journal := [] } c).2.now)
  refine ⟨h ++ g, done.trans (rest.causes c), fun unrouted => ?_,
    fun t ht => (done.orderly.run_ahead _ ht).1⟩
  have none := rest.run.arrives_nothing fun _ _ _ _ hd => hd.1
  unfold arrivedIn at *
  rw [List.filterMap_append, arrivals unrouted, none, List.append_nil]
  rfl

/-- Whatever a session does at commands, it does by the clock. -/
theorem steps_byClock (hs : s.Orderly) (commands : List Command)
    (untagged : ∀ c ∈ commands, Untagged c) :
    ∃ h s', s.CarriesOut commands h s' ∧ s'.Orderly ∧
      ((∀ t ∈ s.tasks, s.now < t.due) → ∀ t ∈ s'.tasks, s'.now < t.due) := by
  induction commands generalizing s with
  | nil => exact ⟨[], s, ⟨rfl, .start, rfl, fun _ => rfl⟩, hs, id⟩
  | cons c commands ih =>
    obtain ⟨h, first, arrivals, ahead⟩ := step_byClock hs (untagged c List.mem_cons_self)
    obtain ⟨g, s', rest, orderly, later⟩ := ih first.orderly fun c hc =>
      untagged c (List.mem_cons_of_mem _ hc)
    have begun : Run (fun s d => Causes c s d ∧ s.InTime d) s _ { s with journal := [] } :=
      Run.single (.aside aside_journal) ⟨trivial, trivial, trivial⟩
    refine ⟨_, s', ⟨rest.ends, ((begun.append first.run).mono fun s d hd => ?_).append
      (rest.run.mono fun s d hd => ?_), ?_, fun unrouted => ?_⟩, orderly, fun _ => later ahead⟩
    · exact ⟨⟨c, List.mem_cons_self, hd.1⟩, hd.2⟩
    · obtain ⟨⟨c', hc', caused⟩, intime⟩ := hd
      exact ⟨⟨c', List.mem_cons_of_mem c hc', caused⟩, intime⟩
    · have none : s.since { s with journal := [] } = [] := List.drop_nil
      rw [journalOf_append, journalOf_append, first.told, rest.told]
      change (s.since { s with journal := [] } ++ []) ++ _ ++ _ = _
      rw [none]
      rfl
    · have here := arrivals (unrouted c List.mem_cons_self)
      have there := rest.arrivals fun c' hc' => unrouted c' (List.mem_cons_of_mem c hc')
      unfold arrivedIn at *
      rw [List.filterMap_append, List.filterMap_append, here, there]
      rfl

/-- A message that is delivered to an open stream arrives at the subscription of that stream. -/
theorem CarriesOut.arrives {commands : List Command} {n : Nat} {m : Message}
    (done : s.CarriesOut commands h s') (unrouted : ∀ c ∈ commands, Unrouted c)
    (hm : (n, m) ∈ s.delivered commands) :
    ∃ before sub dl entries after, h = before ++ ⟨.arrived sub n dl, entries⟩ :: after ∧
      dl.message = m ∧ s'.subscriptions[n]? = some sub := by
  rw [← done.arrivals unrouted] at hm
  obtain ⟨before, sub, dl, entries, after, rfl, carries⟩ := split_of_arrivedIn hm
  exact ⟨before, sub, dl, entries, after, rfl, carries, done.run.known_of_arrival⟩

/-- A session that has nothing to do stays as it is. -/
theorem run_idle (horizon : Option Nat) (tasks : s.tasks = []) (returned : s.broker.returned = []) :
    s.run horizon = s := by
  unfold Session.run runBound runFor
  rw [next?_none horizon tasks returned]

theorem Orderly.settle_idle (hs : s.Orderly) :
    (s.step .settle).2.tasks = [] ∧ (s.step .settle).2.broker.returned = [] := by
  obtain ⟨tasks, returned⟩ := pending_of_next?_none (run_stops none hs.begun.sound
    hs.begun.supplied.backed (hs.begun.numbered.faithful hs.begun.tagged))
  have stays : (s.step .settle).2 = ({ s with journal := [] } : Session).run none :=
    run_idle _ tasks returned
  rw [stays]
  exact ⟨tasks, returned⟩

/-- After commands that end with settling, nothing is left to do. -/
theorem steps_settle (hs : s.Orderly) (commands : List Command)
    (untagged : ∀ c ∈ commands, Untagged c) :
    ∃ h s', s.CarriesOut (commands ++ [.settle]) h s' ∧ s'.Orderly ∧ s'.tasks = [] ∧
      s'.broker.returned = [] := by
  obtain ⟨-, s₁, ⟨rfl, -, -, -⟩, orderly, -⟩ := steps_byClock hs commands untagged
  obtain ⟨h, s', done, orderly', -⟩ := steps_byClock hs (commands ++ [.settle]) fun c hc => by
    rcases List.mem_append.mp hc with hc | hc
    · exact untagged c hc
    · rw [List.mem_singleton.mp hc]
      trivial
  have ends := done.ends
  rw [List.foldl_append] at ends
  exact ⟨h, s', done, orderly', ends ▸ orderly.settle_idle⟩

end

theorem Fresh.orderly {s : Session} (h : s.Fresh) (supplied : s.Supplied) : s.Orderly := by
  have none : ∀ t, t ∉ s.tasks := fun t => h.tasks ▸ List.not_mem_nil
  exact ⟨h.sound, fun t ht => absurd ht (none t), fun t ht => absurd ht (none t), h.tagged,
    supplied⟩

end Session
end Courier
