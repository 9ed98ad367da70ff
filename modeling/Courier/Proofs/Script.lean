import Courier.Proofs.Delivery

/-! Work at a desk that is a list of requests, made one after the other until one fails. -/
namespace Courier

/-- Requests to be made, each with what its failure means to those who make it. -/
abbrev Script (ε : Type) := List (Request × (BrokerError → ε))

namespace Broker
variable {ε : Type}

/-- Makes requests until one fails. -/
def play (b : Broker) : Script ε → Except ε Unit × Broker
  | [] => (.ok (), b)
  | (r, lift) :: script =>
    match b.call r with
    | (.ok (), b) => b.play script
    | (.error e, b) => (.error (lift e), b)

/-- The requests that are made, each with whether it succeeds. -/
def trace (b : Broker) : Script ε → List (Request × Bool)
  | [] => []
  | (r, _) :: script =>
    match b.call r with
    | (.ok (), b) => (r, true) :: b.trace script
    | (.error _, _) => [(r, false)]

theorem play_single (b : Broker) (r : Request) (lift : BrokerError → ε) :
    b.play [(r, lift)] = ((b.call r).1.mapError lift, (b.call r).2) := by
  rw [play]
  obtain ⟨_ | _, b'⟩ := b.call r <;> rfl

theorem trace_single (b : Broker) (r : Request) (lift : BrokerError → ε) :
    b.trace [(r, lift)] = [(r, (b.call r).1.isOk)] := by
  rw [trace]
  obtain ⟨_ | _, b'⟩ := b.call r <;> rfl

theorem play_append (b : Broker) (script more : Script ε) :
    b.play (script ++ more) =
      match b.play script with
      | (.ok (), b') => b'.play more
      | (.error e, b') => (.error e, b') := by
  induction script generalizing b with
  | nil => rfl
  | cons step script ih =>
    obtain ⟨r, lift⟩ := step
    rw [List.cons_append, play, play]
    obtain ⟨_ | _, b'⟩ := b.call r
    · rfl
    · exact ih b'

theorem trace_append (b : Broker) (script more : Script ε) :
    b.trace (script ++ more) = b.trace script ++
      match b.play script with
      | (.ok (), b') => b'.trace more
      | (.error _, _) => [] := by
  induction script generalizing b with
  | nil => rfl
  | cons step script ih =>
    obtain ⟨r, lift⟩ := step
    rw [List.cons_append, trace, trace, play]
    obtain ⟨_ | _, b'⟩ := b.call r
    · rfl
    · exact congrArg ((r, true) :: ·) (ih b')

/-- Only requests of the script are made. -/
theorem trace_subset (b : Broker) (script : Script ε) :
    ∀ made ∈ b.trace script, ∃ step ∈ script, made.1 = step.1 := by
  induction script generalizing b with
  | nil => exact fun _ h => absurd h List.not_mem_nil
  | cons step script ih =>
    obtain ⟨r, lift⟩ := step
    rw [trace]
    obtain ⟨_ | _, b'⟩ := b.call r
    · intro made h
      exact ⟨(r, lift), List.mem_cons_self, congrArg Prod.fst (List.mem_singleton.mp h)⟩
    · intro made h
      rcases List.mem_cons.mp h with rfl | h
      · exact ⟨(r, lift), List.mem_cons_self, rfl⟩
      · obtain ⟨step, hstep, heq⟩ := ih b' made h
        exact ⟨step, List.mem_cons_of_mem _ hstep, heq⟩

/-- A failure is what a failure of one of the requests means. -/
theorem play_error {b : Broker} {script : Script ε} {e : ε} (h : (b.play script).1 = .error e) :
    ∃ step ∈ script, ∃ cause, e = step.2 cause := by
  induction script generalizing b with
  | nil => cases h
  | cons step script ih =>
    obtain ⟨r, lift⟩ := step
    rw [play] at h
    generalize b.call r = called at h
    obtain ⟨cause | _, b'⟩ := called
    · exact ⟨(r, lift), List.mem_cons_self, cause, (Except.error.inj h).symm⟩
    · obtain ⟨step, hstep, heq⟩ := ih h
      exact ⟨step, List.mem_cons_of_mem _ hstep, heq⟩

/-- If nothing fails, all requests have been made. -/
theorem trace_of_ok {b : Broker} {script : Script ε} (h : (b.play script).1 = .ok ()) :
    b.trace script = script.map fun step => (step.1, true) := by
  induction script generalizing b with
  | nil => rfl
  | cons step script ih =>
    obtain ⟨r, lift⟩ := step
    rw [play] at h
    rw [trace]
    generalize b.call r = called at h ⊢
    obtain ⟨_ | _, b'⟩ := called
    · cases h
    · exact congrArg ((r, true) :: ·) (ih h)

end Broker

/-- Logs only tell what has happened anyway. -/
def Event.isLog : Event → Bool
  | .log _ _ _ => true
  | _ => false

namespace Desk
variable {ε α β : Type}

/-- What has happened at the desk so far. -/
def events (d : Desk) : List Event := (d.notes.map Note.event).filter fun e => !e.isLog

theorem noted_events (d : Desk) (e : Event) :
    (d.noted e).events = d.events ++ if e.isLog then [] else [e] := by
  unfold events noted
  rw [List.map_append, List.filter_append]
  congr 1
  cases h : e.isLog <;> simp [h]

theorem requests_eq (d : Desk) : d.requests = d.events.filterMap Event.request? := by
  unfold requests events
  rw [List.filterMap_filter, List.filterMap_map]
  congr 1
  funext n
  show n.event.request? = if !n.event.isLog then n.event.request? else none
  cases n.event <;> rfl

/-- Work that makes the requests of a script until one fails, and gives `result` if none does.
Besides, it only logs. -/
structure Plays (d : Desk) (work : ExceptT ε (StateM Desk) α) (script : Script ε)
    (result : Except ε α) : Prop where
  given : (work.run.run d).1 = (d.broker.play script).1.bind fun _ => result
  broker : (work.run.run d).2.broker = (d.broker.play script).2
  events : (work.run.run d).2.events =
    d.events ++ (d.broker.trace script).map fun step => .request step.1 step.2

section
variable {d : Desk} {work : ExceptT ε (StateM Desk) α} {script : Script ε} {result : Except ε α}

theorem Plays.requests (h : d.Plays work script result) :
    (work.run.run d).2.requests = d.requests ++ d.broker.trace script := by
  rw [requests_eq, requests_eq, h.events, List.filterMap_append, List.filterMap_map]
  exact congrArg _ (List.filterMap_some)

/-- Work that succeeds has made all its requests with success. -/
theorem Plays.of_ok (h : d.Plays work script result) {a : α} (ha : (work.run.run d).1 = .ok a) :
    result = .ok a ∧ (work.run.run d).2.requests =
      d.requests ++ (script.map Prod.fst).map fun r => (r, true) := by
  have hgiven := h.given
  rw [ha] at hgiven
  cases hplay : (d.broker.play script).1 with
  | error e =>
    rw [hplay] at hgiven
    cases hgiven
  | ok =>
    rw [hplay] at hgiven
    rw [h.requests, Broker.trace_of_ok hplay, List.map_map]
    exact ⟨hgiven.symm, rfl⟩

/-- Work that fails says what the failure of one of its requests means, or gives an error once they
are all made. -/
theorem Plays.of_error (h : d.Plays work script result) {e : ε}
    (he : (work.run.run d).1 = .error e) :
    (∃ step ∈ script, ∃ cause, e = step.2 cause) ∨ result = .error e := by
  have hgiven := h.given
  rw [he] at hgiven
  cases hplay : (d.broker.play script).1 with
  | error e' =>
    rw [hplay] at hgiven
    cases hgiven
    exact Or.inl (Broker.play_error hplay)
  | ok =>
    rw [hplay] at hgiven
    exact Or.inr hgiven.symm

theorem Plays.pure (d : Desk) (a : α) :
    d.Plays (Pure.pure a : ExceptT ε (StateM Desk) α) [] (.ok a) :=
  ⟨rfl, rfl, (List.append_nil _).symm⟩

theorem Plays.throw (d : Desk) (e : ε) :
    d.Plays (MonadExcept.throw e : ExceptT ε (StateM Desk) α) [] (.error e) :=
  ⟨rfl, rfl, (List.append_nil _).symm⟩

theorem Plays.log (d : Desk) (level : LogLevel) (message : String)
    (fields : List (String × LogValue)) :
    d.Plays (liftM (Desk.log level message fields) : ExceptT ε (StateM Desk) Unit) [] (.ok ()) :=
  ⟨rfl, rfl, noted_events d (.log level message fields)⟩

theorem Plays.require (d : Desk) (lift : BrokerError → ε) (r : Request) :
    d.Plays (Desk.require lift r) [(r, lift)] (.ok ()) := by
  refine ⟨?_, ?_, ?_⟩
  · rw [require_run, Broker.play_single]
    cases (d.broker.call r).1 <;> rfl
  · rw [require_run, Broker.play_single]
    rfl
  · rw [require_run, Broker.trace_single]
    exact noted_events d (.request r (d.broker.call r).1.isOk)

/-- Work goes on with what comes next unless it fails. -/
theorem bind_run (work : ExceptT ε (StateM Desk) α) (next : α → ExceptT ε (StateM Desk) β)
    (d : Desk) :
    (work >>= next).run.run d = match work.run.run d with
      | (.ok a, d') => (next a).run.run d'
      | (.error e, d') => (.error e, d') := by
  rw [ExceptT.run_bind, StateT.run_bind]
  generalize work.run.run d = out
  obtain ⟨_ | _, d'⟩ := out <;> rfl

/-- Work that depends on how things stand at the desk. -/
theorem Plays.get {next : Desk → ExceptT ε (StateM Desk) α} (h : d.Plays (next d) script result) :
    d.Plays (MonadState.get >>= next) script result :=
  ⟨h.given, h.broker, h.events⟩

/-- A request whose failure is looked into. -/
theorem Plays.call (d : Desk) (lift : BrokerError → ε) (r : Request)
    {next : Except BrokerError Unit → ExceptT ε (StateM Desk) Unit}
    (done : ∀ d' : Desk, d'.Plays (next (.ok ())) [] (.ok ()))
    (failed : ∀ (d' : Desk) (cause : BrokerError),
      d'.Plays (next (.error cause)) [] (.error (lift cause))) :
    d.Plays (liftM (Desk.call r) >>= next) [(r, lift)] (.ok ()) := by
  have hcalled : (liftM (Desk.call r) : ExceptT ε (StateM Desk) _).run.run d =
      (.ok (d.broker.call r).1, d.called r) := rfl
  have hnext : (d.called r).Plays (next (d.broker.call r).1) []
      ((d.broker.call r).1.mapError lift) := by
    cases (d.broker.call r).1 with
    | ok => exact done _
    | error cause => exact failed _ cause
  have hevents := noted_events d (.request r (d.broker.call r).1.isOk)
  refine ⟨?_, ?_, ?_⟩
  · rw [bind_run, hcalled, Broker.play_single]
    refine hnext.given.trans ?_
    cases (d.broker.call r).1 <;> rfl
  · rw [bind_run, hcalled, Broker.play_single]
    exact hnext.broker
  · rw [bind_run, hcalled, Broker.trace_single]
    exact hnext.events.trans ((List.append_nil _).trans hevents)

theorem Plays.bind {next : α → ExceptT ε (StateM Desk) β} {a : α} {more : Script ε}
    {result : Except ε β} (h : d.Plays work script (.ok a))
    (h' : ∀ d' : Desk, d'.broker = (d.broker.play script).2 → d'.Plays (next a) more result) :
    d.Plays (work >>= next) (script ++ more) result := by
  obtain ⟨hgiven, hbroker, hevents⟩ := h
  have hrun := bind_run work next d
  have happend := d.broker.play_append script more
  have htrace := d.broker.trace_append script more
  generalize work.run.run d = out at hgiven hbroker hevents hrun
  obtain ⟨given, d'⟩ := out
  generalize d.broker.play script = played at hgiven hbroker h' happend htrace
  obtain ⟨_ | _, b⟩ := played
  · cases hgiven
    refine ⟨?_, ?_, ?_⟩
    · rw [hrun, happend]
      rfl
    · rw [hrun, happend]
      exact hbroker
    · rw [hrun, htrace, List.append_nil]
      exact hevents
  · cases hgiven
    obtain ⟨hgiven', hbroker', hevents'⟩ := h' d' hbroker
    have hb : d'.broker = b := hbroker
    rw [hb] at hgiven' hbroker' hevents'
    refine ⟨?_, ?_, ?_⟩
    · rw [hrun, happend]
      exact hgiven'
    · rw [hrun, happend]
      exact hbroker'
    · rw [hrun, htrace, List.map_append, ← List.append_assoc, ← hevents]
      exact hevents'

/-- Work whose result is not what is given in the end. -/
theorem Plays.giving {a : α} (h : d.Plays work script (.ok a)) (b : β) :
    d.Plays (work >>= fun _ => Pure.pure b) script (.ok b) := by
  rw [← List.append_nil script]
  exact h.bind fun d' _ => Plays.pure d' b

/-- Work without requests before other work. -/
theorem Plays.quietly {next : α → ExceptT ε (StateM Desk) β} {a : α} {more : Script ε}
    {result : Except ε β} (h : d.Plays work [] (.ok a))
    (h' : ∀ d' : Desk, d'.broker = d.broker → d'.Plays (next a) more result) :
    d.Plays (work >>= next) more result :=
  h.bind h'

/-- What comes after a failure is not done. -/
theorem Plays.fail {next : α → ExceptT ε (StateM Desk) β} {e : ε}
    (h : d.Plays work script (.error e)) : d.Plays (work >>= next) script (.error e) := by
  obtain ⟨hgiven, hbroker, hevents⟩ := h
  have hrun := bind_run work next d
  generalize work.run.run d = out at hgiven hbroker hevents hrun
  obtain ⟨given, d'⟩ := out
  cases given with
  | ok a =>
    generalize (d.broker.play script).1 = played at hgiven
    cases played <;> cases hgiven
  | error e' =>
    refine ⟨?_, ?_, ?_⟩
    · rw [hrun]
      generalize (d.broker.play script).1 = played at hgiven ⊢
      cases played <;> cases hgiven <;> rfl
    · rw [hrun]
      exact hbroker
    · rw [hrun]
      exact hevents

/-- Work that is done only under a condition before more is done. -/
theorem Plays.whenThen {c : Prop} [Decidable c] {work : ExceptT ε (StateM Desk) Unit}
    {next : Unit → ExceptT ε (StateM Desk) α} {more : Script ε}
    (h : d.Plays work script (.ok ())) (h' : ∀ d' : Desk, d'.Plays (next ()) more result) :
    d.Plays (if c then work >>= next else next ()) ((if c then script else []) ++ more) result := by
  split
  · exact h.bind fun d' _ => h' d'
  · exact h' d

/-- The same when no requests come after it. -/
theorem Plays.whenLast {c : Prop} [Decidable c] {work : ExceptT ε (StateM Desk) Unit}
    {next : Unit → ExceptT ε (StateM Desk) α} (h : d.Plays work script (.ok ()))
    (h' : ∀ d' : Desk, d'.Plays (next ()) [] result) :
    d.Plays (if c then work >>= next else next ()) (if c then script else []) result := by
  have hplays := whenThen (c := c) h h'
  rwa [List.append_nil] at hplays

end
end Desk
end Courier
