import Courier.Proofs.Declaration
import Courier.Proofs.Session.Move
import Courier.Proofs.Session.Publishing

/-! Declaring a contract again, after it has failed or succeeded, comes to the topology that one
successful declaration leads to: whatever the calls before have set up is taken up by it. -/
namespace Courier

namespace Topology

theorem insertNew_insertNew {α : Type} [DecidableEq α] (a : α) (l : List α) :
    insertNew a (insertNew a l) = insertNew a l := by
  unfold insertNew
  by_cases h : a ∈ l <;> simp [h]

theorem mem_insertNew {α : Type} [DecidableEq α] {a a' : α} {l : List α} :
    a' ∈ insertNew a l ↔ a' = a ∨ a' ∈ l := by
  unfold insertNew
  by_cases h : a ∈ l
  · rw [if_pos h]
    constructor
    · exact Or.inr
    · rintro (rfl | h')
      · exact h
      · exact h'
  · rw [if_neg h, List.mem_append, List.mem_singleton]
    exact or_comm

/-- To ask for a thing again changes nothing. -/
theorem after_after (t : Topology) (r : Request) : (t.after r).after r = t.after r := by
  cases r with
  | declareExchange x =>
    exact congrArg (fun exchanges => { t with exchanges }) (insertNew_insertNew x t.exchanges)
  | declareQueue q =>
    exact congrArg (fun queues => { t with queues }) (Keyed.put_put q.name q q t.queues)
  | bindQueue b =>
    exact congrArg (fun bindings => { t with bindings }) (insertNew_insertNew b t.bindings)
  | _ => rfl

/-- Requests of different kinds do not get in each other's way. -/
theorem after_comm (t : Topology) {r r' : Request} (h : r.rpc ≠ r'.rpc) :
    (t.after r).after r' = (t.after r').after r := by
  cases r <;> cases r' <;> first | rfl | exact absurd rfl h

/-- The topology after requests that have all succeeded. -/
def afterAll (t : Topology) (requests : List Request) : Topology := requests.foldl after t

theorem afterAll_append (t : Topology) (requests more : List Request) :
    t.afterAll (requests ++ more) = (t.afterAll requests).afterAll more := List.foldl_append

theorem afterAll_after (t : Topology) {r : Request} {requests : List Request}
    (h : ∀ r' ∈ requests, r.rpc ≠ r'.rpc) :
    (t.afterAll requests).after r = (t.after r).afterAll requests := by
  induction requests generalizing t with
  | nil => rfl
  | cons r' requests ih =>
    have hcomm := t.after_comm (h r' List.mem_cons_self)
    have hrest := ih (t.after r') fun r'' hr'' => h r'' (List.mem_cons_of_mem r' hr'')
    rw [afterAll, List.foldl_cons, afterAll, List.foldl_cons, hcomm]
    exact hrest

section
variable {full : List Request} (distinct : (full.map Request.rpc).Nodup) {r : Request}
  (hr : r ∈ full)
include distinct hr

/-- What one of the requests has done before, all of them do. -/
theorem after_afterAll (t : Topology) : (t.after r).afterAll full = t.afterAll full := by
  induction full generalizing t with
  | nil => cases hr
  | cons r' rest ih =>
    rw [List.map_cons, List.nodup_cons] at distinct
    obtain ⟨hnew, hrest⟩ := distinct
    rw [afterAll, List.foldl_cons, afterAll, List.foldl_cons]
    rcases List.mem_cons.mp hr with rfl | hmem
    · rw [after_after]
    · have hne : r.rpc ≠ r'.rpc := by
        intro he
        apply hnew
        rw [← he]
        exact List.mem_map_of_mem hmem
      rw [t.after_comm hne]
      exact ih hrest hmem (t.after r')

/-- What one of the requests does after all of them, has been done. -/
theorem afterAll_absorbs (t : Topology) : (t.afterAll full).after r = t.afterAll full := by
  induction full generalizing t with
  | nil => cases hr
  | cons r' rest ih =>
    rw [List.map_cons, List.nodup_cons] at distinct
    obtain ⟨hnew, hrest⟩ := distinct
    rw [afterAll, List.foldl_cons]
    rcases List.mem_cons.mp hr with rfl | hmem
    · have hothers : ∀ r' ∈ rest, r.rpc ≠ r'.rpc := by
        intro r' hr' he
        apply hnew
        rw [he]
        exact List.mem_map_of_mem hr'
      have hlast := afterAll_after (t.after r) hothers
      rw [after_after] at hlast
      exact hlast
    · exact ih hrest hmem (t.after r')

end

/-- However often some of the requests have been made before, all of them lead to the same end. -/
theorem afterAll_afterAll {full : List Request} (distinct : (full.map Request.rpc).Nodup)
    {some : List Request} (h : ∀ r ∈ some, r ∈ full) (t : Topology) :
    (t.afterAll some).afterAll full = t.afterAll full := by
  induction some generalizing t with
  | nil => rfl
  | cons r some ih =>
    have hrest := ih (fun r' hr' => h r' (List.mem_cons_of_mem r hr')) (t.after r)
    rw [after_afterAll distinct (h r List.mem_cons_self)] at hrest
    exact hrest

/-- Everything in a topology is as it was at the start or as it is in the end. -/
structure Between (start final t : Topology) : Prop where
  exchanges : ∀ x, (x ∈ t.exchanges ↔ x ∈ start.exchanges) ∨
    (x ∈ t.exchanges ↔ x ∈ final.exchanges)
  queues : ∀ name, t.queues.get? name = start.queues.get? name ∨
    t.queues.get? name = final.queues.get? name
  bindings : ∀ b, (b ∈ t.bindings ↔ b ∈ start.bindings) ∨ (b ∈ t.bindings ↔ b ∈ final.bindings)

variable {start final t : Topology}

theorem Between.refl (start final : Topology) : Between start final start :=
  ⟨fun _ => Or.inl Iff.rfl, fun _ => Or.inl rfl, fun _ => Or.inl Iff.rfl⟩

theorem between_insertNew {α : Type} [DecidableEq α] {start final l : List α} {a : α}
    (h : ∀ a', (a' ∈ l ↔ a' ∈ start) ∨ (a' ∈ l ↔ a' ∈ final)) (hfinal : a ∈ final) (a' : α) :
    (a' ∈ insertNew a l ↔ a' ∈ start) ∨ (a' ∈ insertNew a l ↔ a' ∈ final) := by
  rw [mem_insertNew]
  by_cases he : a' = a
  · subst he
    exact Or.inr ⟨fun _ => hfinal, fun _ => Or.inl rfl⟩
  · simpa [he] using h a'

/-- A request that has nothing more to do in the end keeps everything between. -/
theorem Between.after (h : Between start final t) {r : Request} (hfinal : final.after r = final) :
    Between start final (t.after r) := by
  cases r with
  | declareExchange x =>
    have hmem : x ∈ final.exchanges := by
      rw [← hfinal]
      exact mem_insertNew.mpr (Or.inl rfl)
    exact ⟨between_insertNew h.exchanges hmem, h.queues, h.bindings⟩
  | declareQueue q =>
    have hget : final.queues.get? q.name = some q := by
      rw [← hfinal]
      exact (Keyed.get?_put q.name q.name q _).trans (if_pos rfl)
    refine ⟨h.exchanges, fun name => ?_, h.bindings⟩
    have hput : (t.after (.declareQueue q)).queues.get? name = _ :=
      Keyed.get?_put q.name name q t.queues
    rw [hput]
    split
    · next he =>
      rw [← he, hget]
      exact Or.inr rfl
    · exact h.queues name
  | bindQueue b =>
    have hmem : b ∈ final.bindings := by
      rw [← hfinal]
      exact mem_insertNew.mpr (Or.inl rfl)
    exact ⟨h.exchanges, h.queues, between_insertNew h.bindings hmem⟩
  | _ => exact h

theorem Between.afterAll (h : Between start final t) {requests : List Request}
    (hfinal : ∀ r ∈ requests, final.after r = final) :
    Between start final (t.afterAll requests) := by
  induction requests generalizing t with
  | nil => exact h
  | cons r requests ih =>
    exact ih (h.after (hfinal r List.mem_cons_self))
      fun r' hr' => hfinal r' (List.mem_cons_of_mem r hr')

end Topology

/-- Those of the requests that have succeeded. -/
def succeeded (made : List (Request × Bool)) : List Request := (made.filter (·.2)).map Prod.fst

theorem succeeded_append (made more : List (Request × Bool)) :
    succeeded (made ++ more) = succeeded made ++ succeeded more := by
  unfold succeeded
  rw [List.filter_append, List.map_append]

theorem mem_of_succeeded {made : List (Request × Bool)} {r : Request} (h : r ∈ succeeded made) :
    ∃ m ∈ made, m.1 = r := by
  obtain ⟨m, hm, rfl⟩ := List.mem_map.mp h
  exact ⟨m, (List.mem_filter.mp hm).1, rfl⟩

theorem succeeded_all (requests : List Request) :
    succeeded (requests.map fun r => (r, true)) = requests := by
  unfold succeeded
  rw [List.filter_eq_self.mpr (by simp), List.map_map]
  exact List.map_id requests

namespace Broker

theorem after_topology (b : Broker) (r : Request) :
    (b.after r).topology = b.topology.after r := by
  cases r with
  | publish =>
    unfold after
    dsimp only
    split <;> rfl
  | nack tag multiple requeue =>
    unfold after takeBack
    dsimp only
    split
    · rfl
    · split <;> rfl
  | _ => rfl

/-- Requests change the topology as far as they succeed. -/
theorem play_topology {ε : Type} (b : Broker) (script : Script ε) :
    (b.play script).2.topology = b.topology.afterAll (succeeded (b.trace script)) := by
  induction script generalizing b with
  | nil => rfl
  | cons step script ih =>
    obtain ⟨r, lift⟩ := step
    have hcall := b.call_eq r
    rw [play, trace]
    cases hfault : (b.faults.take r.rpc).1 with
    | some error =>
      rw [hfault] at hcall
      rw [hcall]
      rfl
    | none =>
      rw [hfault] at hcall
      have hafter := (b.spend r.rpc).after_topology r
      rw [hcall]
      dsimp only
      rw [ih, hafter]
      rfl

end Broker

namespace Contract
variable (c : Contract) (env : String)

/-- No two of the requests that declare a contract are of one kind. -/
theorem declaring_distinct : ((c.declaring env).map Request.rpc).Nodup := by
  unfold declaring
  cases c.exchange.isDefault <;> simp [Request.rpc]

end Contract

namespace Session

/-- The session after so many calls to declare a contract, however they have ended. -/
def declareTimes (c : Contract) : Nat → Session → Session
  | 0, s => s
  | n + 1, s => ((declareTimes c n s).perform (.declare c)).2

section
variable {s s' p : Session} {c : Contract} {name : String}

/-- A call to declare a contract comes to its script. -/
theorem perform_declare (s : Session) (c : Contract) :
    let script := (c.declaration s.env).1
    (s.perform (.declare c)).1 =
        .declared ((s.broker.play script).1.bind fun _ => (c.declaration s.env).2) ∧
      (s.perform (.declare c)).2.env = s.env ∧
      (s.perform (.declare c)).2.broker = (s.broker.play script).2 ∧
      s.journal <+: (s.perform (.declare c)).2.journal ∧
      Entry.requests (s.since (s.perform (.declare c)).2) = s.broker.trace script := by
  have hplays := Contract.declare_plays (c := c) s.env (s.desk (s.ledgerOf 0))
  refine ⟨congrArg Reply.declared hplays.given, rfl, hplays.broker, List.prefix_append _ _, ?_⟩
  have hsince : s.since (s.perform (.declare c)).2 = _ := since_eq rfl
  rw [hsince, Entry.requests_heard]
  exact hplays.requests.trans (List.nil_append _)

/-- What a contract needs to be declared without a fault, and what is then asked for. -/
theorem declared_declaration
    (h : s.perform (.declare c) = (.declared (.ok name), p)) :
    (c.declaration s.env).2 = .ok name ∧
      (c.declaration s.env).1.map Prod.fst = c.declaring s.env ∧
      p.broker.topology = s.broker.topology.afterAll (c.declaring s.env) := by
  obtain ⟨hreply, -, hbroker, -, -⟩ := perform_declare s c
  rw [h] at hreply hbroker
  have hgiven := Reply.declared.inj hreply
  cases hplay : (s.broker.play (c.declaration s.env).1).1 with
  | error e =>
    rw [hplay] at hgiven
    cases hgiven
  | ok =>
    rw [hplay] at hgiven
    have hname : (c.declaration s.env).2 = .ok name := hgiven.symm
    obtain ⟨-, hscript⟩ := Contract.declaration_ok s.env hname
    refine ⟨hname, hscript, ?_⟩
    have hbroker' : p.broker = (s.broker.play (c.declaration s.env).1).2 := hbroker
    rw [hbroker', Broker.play_topology, Broker.trace_of_ok hplay, ← hscript]
    have hall : (c.declaration s.env).1.map (fun step => (step.1, true)) =
        ((c.declaration s.env).1.map Prod.fst).map fun r => (r, true) := by
      rw [List.map_map]
      rfl
    rw [hall, succeeded_all]

/-- What calls to declare a contract have done so far: they have made some of its requests, and
these have made the topology what it is. -/
structure Declares (c : Contract) (s s' : Session) : Prop where
  env : s'.env = s.env
  journal : s.journal <+: s'.journal
  asked : ∀ made ∈ Entry.requests (s.since s'), made.1 ∈ c.declaring s.env
  topology : s'.broker.topology =
    s.broker.topology.afterAll (succeeded (Entry.requests (s.since s')))

theorem Declares.refl (c : Contract) (s : Session) : Declares c s s := by
  have hnone : s.since s = [] := since_eq (List.append_nil _).symm
  refine ⟨rfl, List.prefix_rfl, ?_, ?_⟩
  · rw [hnone]
    exact fun _ h => absurd h List.not_mem_nil
  · rw [hnone]
    rfl

/-- Another call, however it ends. -/
theorem Declares.again (h : Declares c s s')
    (hscript : (c.declaration s.env).1.map Prod.fst = c.declaring s.env) :
    Declares c s (s'.perform (.declare c)).2 := by
  obtain ⟨-, henv, hbroker, hjournal, hrequests⟩ := perform_declare s' c
  rw [h.env] at hbroker hrequests
  have hsince : Entry.requests (s.since (s'.perform (.declare c)).2) =
      Entry.requests (s.since s') ++ s'.broker.trace (c.declaration s.env).1 := by
    rw [since_trans h.journal hjournal, ← hrequests]
    exact List.filterMap_append
  refine ⟨henv.trans h.env, h.journal.trans hjournal, ?_, ?_⟩
  · rw [hsince]
    intro made hmade
    rcases List.mem_append.mp hmade with hmade | hmade
    · exact h.asked made hmade
    · obtain ⟨step, hstep, hsame⟩ := s'.broker.trace_subset _ made hmade
      rw [hsame, ← hscript]
      exact List.mem_map_of_mem hstep
  · rw [hsince, succeeded_append, Topology.afterAll_append, ← h.topology, hbroker]
    exact Broker.play_topology _ _

theorem Declares.times (c : Contract) (s : Session)
    (hscript : (c.declaration s.env).1.map Prod.fst = c.declaring s.env) (n : Nat) :
    Declares c s (declareTimes c n s) := by
  induction n with
  | zero => exact .refl c s
  | succ n ih => exact ih.again hscript

/-- A call fails because a request does, or leads to the topology of a call without faults. -/
theorem Declares.next (h : Declares c s s') (hname : (c.declaration s.env).2 = .ok name) :
    (∃ cause, (s'.perform (.declare c)).1 = .declared (.error (.broker cause))) ∨
      (s'.perform (.declare c)).1 = .declared (.ok name) ∧
        (s'.perform (.declare c)).2.broker.topology =
          s.broker.topology.afterAll (c.declaring s.env) := by
  obtain ⟨hreply, -, -, -, -⟩ := perform_declare s' c
  rw [h.env, hname] at hreply
  cases hplay : (s'.broker.play (c.declaration s.env).1).1 with
  | error e =>
    rw [hplay] at hreply
    obtain ⟨step, hstep, cause, rfl⟩ := Broker.play_error hplay
    rw [(Contract.declaration_steps s.env step hstep).2] at hreply
    exact Or.inl ⟨cause, hreply⟩
  | ok =>
    rw [hplay] at hreply
    obtain ⟨-, -, htopology⟩ := declared_declaration (p := (s'.perform (.declare c)).2)
      (Prod.ext hreply rfl)
    have hearlier : ∀ r ∈ succeeded (Entry.requests (s.since s')), r ∈ c.declaring s.env := by
      intro r hr
      obtain ⟨made, hmade, rfl⟩ := mem_of_succeeded hr
      exact h.asked made hmade
    rw [h.env, h.topology,
      Topology.afterAll_afterAll (c.declaring_distinct s.env) hearlier] at htopology
    exact Or.inr ⟨hreply, htopology⟩

/-- Whatever calls to declare a contract have done, things are as they were before all of them or as
they are after a call without faults. -/
theorem Declares.between (h : Declares c s s') {made : List (Request × Bool)}
    (hmade : made <+: Entry.requests (s.since s')) :
    Topology.Between s.broker.topology (s.broker.topology.afterAll (c.declaring s.env))
      (s.broker.topology.afterAll (succeeded made)) := by
  apply (Topology.Between.refl _ _).afterAll
  intro r hr
  obtain ⟨m, hm, rfl⟩ := mem_of_succeeded hr
  have hasked := h.asked m (hmade.subset hm)
  exact Topology.afterAll_absorbs (c.declaring_distinct s.env) hasked _

/-- If a contract can be declared where nothing fails, then it does not matter how often this has
been tried before, and how far it got: a call fails because one of its requests does, or it gives
the same name and leaves the same topology as a single call without faults. On the way there,
everything is as it was before the first call or as it is in the end. -/
theorem declaring_converges
    (single : { s with broker.faults := [] }.perform (.declare c) = (.declared (.ok name), p))
    (n : Nat) :
    let sₙ := declareTimes c n s
    let next := sₙ.perform (.declare c)
    ((∃ cause, next.1 = .declared (.error (.broker cause))) ∨
      next.1 = .declared (.ok name) ∧ next.2.broker.topology = p.broker.topology) ∧
    sₙ.broker.topology =
      s.broker.topology.afterAll (succeeded (Entry.requests (s.since sₙ))) ∧
    ∀ made, made <+: Entry.requests (s.since sₙ) →
      Topology.Between s.broker.topology p.broker.topology
        (s.broker.topology.afterAll (succeeded made)) := by
  intro sₙ next
  obtain ⟨hname, hscript, hfinal⟩ := declared_declaration single
  have h : Declares c s sₙ := Declares.times c s hscript n
  have hend : p.broker.topology = s.broker.topology.afterAll (c.declaring s.env) := hfinal
  rw [hend]
  exact ⟨h.next hname, h.topology, fun _ => h.between⟩

end
end Session

namespace Trial

def feeding : Contract := contractAt (.named "x")

/-- Another queue is there already, and the first three calls fail at one step after the other. -/
def halting : Session :=
  { home with
    broker := {
      topology := { queues := [("other", ⟨"other", false, false, false⟩)] }
      faults := [(.declareExchange, [some (.declareExchange "x")]),
        (.declareQueue, [some (.declareQueue "q")]), (.bindQueue, [some (.bindQueue "x" "q")])] } }

/-- The broker without faults, after one call. -/
def unhindered : Session := ({ halting with broker.faults := [] }.perform (.declare feeding)).2

end Trial

namespace Session
open Trial

/-- The fourth call finds the exchange and the queue declared, and binds them. -/
theorem declared_at_fourth :
    { halting with broker.faults := [] }.perform (.declare feeding) =
      (.declared (.ok (feeding.address "dev")), unhindered) ∧
    (declareTimes feeding 3 halting).broker.topology.bindings = [] ∧
    ((declareTimes feeding 3 halting).perform (.declare feeding)).2.broker.topology =
      unhindered.broker.topology := by
  have hsingle : { halting with broker.faults := [] }.perform (.declare feeding) =
    (.declared (.ok (feeding.address "dev")), unhindered) := rfl
  have hreply : ((declareTimes feeding 3 halting).perform (.declare feeding)).1 =
    .declared (.ok (feeding.address "dev")) := rfl
  obtain ⟨⟨cause, hfailed⟩ | ⟨-, hsame⟩, -⟩ := declaring_converges hsingle 3
  · rw [hreply] at hfailed
    cases hfailed
  · exact ⟨hsingle, rfl, hsame⟩

end Session
end Courier
