import Courier.Proofs.Session.Upshot
import Courier.Proofs.Twin.Abreast

/-! Commands in two sessions that differ only in which acknowledgements are going to fail: they get
the same replies, and everything goes on in the same way. -/
namespace Courier

/-- No two of the deliveries that entries are about have one tag. -/
def Entry.DistinctTags (entries : List Entry) : Prop :=
  ∀ p ∈ entries.filterMap Entry.delivery, ∀ q ∈ entries.filterMap Entry.delivery,
    p.2 = q.2 → p.1 = q.1

instance (entries : List Entry) : Decidable (Entry.DistinctTags entries) :=
  inferInstanceAs (Decidable (∀ _ ∈ _, _))

theorem Entry.DistinctTags.numbered {entries : List Entry} (h : Entry.DistinctTags entries) :
    ∃ number, Entry.NumberedBy number entries := by
  have some_number : ∀ tag, ∃ n, ∀ e ∈ entries, ∀ m, e.delivery = some (m, tag) → n = m := by
    intro tag
    by_cases known : ∃ n, ∃ e ∈ entries, e.delivery = some (n, tag)
    · obtain ⟨n, e, he, hn⟩ := known
      refine ⟨n, fun e' he' m hm => ?_⟩
      exact h _ (List.mem_filterMap.mpr ⟨e, he, hn⟩) _ (List.mem_filterMap.mpr ⟨e', he', hm⟩) rfl
    · exact ⟨0, fun e he m hm => absurd ⟨m, e, he, hm⟩ known⟩
  choose number hnumber using some_number
  exact ⟨number, fun e he n tag hd => hnumber tag e he n hd⟩

namespace Session

/-- The replies to commands. -/
def replies (s : Session) : List Command → List Reply
  | [] => []
  | c :: rest => (s.step c).1 :: (s.step c).2.replies rest

section
variable {number : Nat → Nat} {s t : Session}

theorem Twin.ledgerOf_eq (h : s.Twin t) (n : Nat) : t.ledgerOf n = s.ledgerOf n := by
  unfold ledgerOf
  rw [h.dispatchers]

theorem work_grows {α : Type} (s : Session) (c : Contract) (w : StateM Desk α) :
    s.journal <+: (s.work c w).2.journal := List.prefix_append _ _

/-- Work on behalf of a contract that is about no delivery. -/
theorem work_along {α : Type} (h : Ready number s t) (c : Contract) {w : StateM Desk α}
    (made : Made Chore.isPlain w) :
    (t.work c w).1 = (s.work c w).1 ∧ Along number s t (s.work c w).2 (t.work c w).2 := by
  obtain ⟨hsame, htwin⟩ :=
    h.twin.act (made.mono Chore.keeps_of_isPlain) (s.ledgerOf 0) none c.handler
  unfold work
  rw [h.twin.ledgerOf_eq]
  exact ⟨hsame, h.beside (act_aside s _ _ made.harmless) (act_aside t _ _ made.harmless) htwin⟩

theorem spread_along (message : Message) (streams : List Nat) (h : Ready number s t)
    (ho : ∀ n ∈ streams, s.broker.isOpen n = true)
    (known : Entry.NumberedBy number
      (streams.foldl (fun s n => (s.handOver n message none).2) s).journal) :
    Along number s t (streams.foldl (fun s n => (s.handOver n message none).2) s)
      (streams.foldl (fun s n => (s.handOver n message none).2) t) := by
  induction streams generalizing s t with
  | nil => exact h.along
  | cons n streams ih =>
    have hn := ho n List.mem_cons_self
    have hgrows := Tends.foldl (fun s n => handOver_tends s n message none) streams
      (s.handOver n message none).2
    have first := (handOver_along h hn (known.of_prefix hgrows.grows)).2
    refine first.trans (ih first.2 ?_ known)
    exact fun k hk => handOver_isOpen h.sound hn message none (ho k (List.mem_cons_of_mem n hk))

theorem Twin.destinations_eq (h : s.Twin t) (p : Posting) :
    t.broker.destinations p = s.broker.destinations p := by
  obtain ⟨faults, inFlight, hb, -⟩ := h.broker
  rw [hb]
  rfl

/-- Published messages are handed to the same streams in both. -/
theorem route_along (h : Ready number s t) (known : Entry.NumberedBy number s.route.journal) :
    Along number s t s.route t.route := by
  have folded : ∀ (ps : List Posting) {s t : Session}, Ready number s t →
      Entry.NumberedBy number (ps.foldl (fun s p => (s.broker.destinations p).foldl
        (fun s n => (s.handOver n p.message none).2) s) s).journal →
      Along number s t
        (ps.foldl (fun s p => (s.broker.destinations p).foldl
          (fun s n => (s.handOver n p.message none).2) s) s)
        (ps.foldl (fun s p => (s.broker.destinations p).foldl
          (fun s n => (s.handOver n p.message none).2) s) t) := by
    intro ps
    induction ps with
    | nil => exact fun h _ => h.along
    | cons p ps ih =>
      intro s t h known
      have hgrows := Tends.foldl (fun s p => Tends.foldl (fun s n =>
        handOver_tends s n p.message none) (s.broker.destinations p) s) ps
        ((s.broker.destinations p).foldl (fun s n => (s.handOver n p.message none).2) s)
      have first := spread_along p.message (s.broker.destinations p) h
        (fun n hn => destinations_isOpen hn) (known.of_prefix hgrows.grows)
      rw [List.foldl_cons, List.foldl_cons, h.twin.destinations_eq]
      exact first.trans (ih first.2 known)
  have first := h.beside aside_unrouted aside_unrouted h.twin.unrouted
  unfold route at known ⊢
  rw [h.twin.postings]
  exact first.trans (folded _ first.2 known)

theorem deliver_along {n : Nat} (messages : List (Message × Option Nat)) (h : Ready number s t)
    (known : Entry.NumberedBy number (s.deliver n messages).2.journal) :
    (t.deliver n messages).1 = (s.deliver n messages).1 ∧
      Along number s t (s.deliver n messages).2 (t.deliver n messages).2 := by
  induction messages generalizing s t with
  | nil => exact ⟨rfl, h.along⟩
  | cons m messages ih =>
    obtain ⟨message, tag⟩ := m
    unfold deliver at known ⊢
    rw [h.twin.isOpen]
    by_cases ho : s.broker.isOpen n = true
    · rw [if_pos ho] at known ⊢
      rw [if_pos ho]
      dsimp only at known ⊢
      obtain ⟨htag, first⟩ := handOver_along h ho
        (known.of_prefix (deliver_tends (s.handOver n message tag).2 n messages).grows)
      obtain ⟨htags, rest⟩ := ih first.2 known
      rw [htag, htags]
      exact ⟨rfl, first.trans rest⟩
    · rw [if_neg ho] at known ⊢
      rw [if_neg ho]
      dsimp only at known ⊢
      obtain ⟨htags, rest⟩ := ih h known
      rw [htags]
      exact ⟨rfl, rest⟩

theorem waited_along (ms : Nat) (h : Ready number s t)
    (known : Entry.NumberedBy number (s.waited ms).journal) :
    Along number s t (s.waited ms) (t.waited ms) := by
  unfold waited at known ⊢
  split at known
  · next hms =>
    rw [if_pos hms, if_pos hms]
    exact h.along
  · next hms =>
    rw [if_neg hms, if_neg hms]
    exact advance_along _ h known

/-- The same is published in both, and it goes to the same streams. -/
theorem publishUnder_along (label : String) (c : Contract) (context : List (String × String))
    (payload : Payload) (key : String) (h : Ready number s t)
    (known : Entry.NumberedBy number (s.publishUnder label c context payload key).2.journal) :
    (t.publishUnder label c context payload key).1 =
        (s.publishUnder label c context payload key).1 ∧
      Along number s t (s.publishUnder label c context payload key).2
        (t.publishUnder label c context payload key).2 := by
  obtain ⟨hsame, enclosed⟩ := work_along h c (Made.enclose c label payload)
  unfold publishUnder at known ⊢
  dsimp only at known ⊢
  rw [hsame]
  generalize (s.work c (c.enclose label payload)).1 = enclosure at known ⊢
  have waited := waited_along enclosure.2.wait enclosed.2
    (known.of_prefix ((work_grows _ c _).trans (route_tends _).grows))
  obtain ⟨hresult, sent⟩ := work_along waited.2 c
    (Made.send c key context enclosure.1 enclosure.2.result).plain
  exact ⟨hresult, ((enclosed.trans waited).trans sent).trans (route_along sent.2 known)⟩

theorem publish_along (label : String) (c : Contract) (broadcast : Bool)
    (context : List (String × String)) (payload : Payload) (h : Ready number s t)
    (known : Entry.NumberedBy number (s.publish label c broadcast context payload).2.journal) :
    (t.publish label c broadcast context payload).1 =
        (s.publish label c broadcast context payload).1 ∧
      Along number s t (s.publish label c broadcast context payload).2
        (t.publish label c broadcast context payload).2 := by
  obtain ⟨hsame, keyed⟩ := work_along h c (Made.routingKey c s.env broadcast).plain
  cases hkey : (s.work c (c.routingKey s.env broadcast).run).1 with
  | error e =>
    rw [hkey, ← h.twin.env] at hsame
    rw [publish_of_error s label c context payload hkey,
      publish_of_error t label c context payload hsame, h.twin.env]
    exact ⟨rfl, keyed⟩
  | ok key =>
    rw [hkey, ← h.twin.env] at hsame
    rw [publish_of_key s label c context payload hkey] at known ⊢
    rw [publish_of_key t label c context payload hsame, h.twin.env]
    obtain ⟨hresult, published⟩ := publishUnder_along label c context payload key keyed.2 known
    exact ⟨hresult, keyed.trans published⟩

theorem Twin.register (h : s.Twin t) (label : String) (c : Contract) (n : Nat) :
    (t.register label c n).1 = (s.register label c n).1 ∧
      (s.register label c n).2.Twin (t.register label c n).2 := by
  unfold Session.register
  rw [h.dispatchers]
  cases s.dispatchers[n]? with
  | none => exact ⟨rfl, h⟩
  | some d =>
    dsimp only
    obtain ⟨given, s₁, t₁, hs, ht, hdone⟩ :=
      Twin.of_works (h.act (Made.register c s.env d.registry) d.ledger none c.handler)
    rw [h.env, hs, ht]
    obtain ⟨broker, journal, rfl, hbroker, hjournal⟩ := hdone
    obtain ⟨result, registry⟩ := given
    cases result <;> exact ⟨rfl, broker, journal, rfl, hbroker, hjournal⟩

theorem Twin.streamError (h : s.Twin t) (n : Nat) (e : BrokerError) :
    (s.streamError n e).Twin (t.streamError n e) := by
  unfold Session.streamError
  rw [h.isOpen]
  split
  · exact h.log _ _ _
  · exact h

/-- A command is carried out in the same way in both, and gets the same reply. -/
theorem perform_along (h : Ready number s t) (c : Command)
    (known : Entry.NumberedBy number (s.perform c).2.journal) :
    (t.perform c).1 = (s.perform c).1 ∧ Along number s t (s.perform c).2 (t.perform c).2 := by
  have tasks : ∀ {s' : Session}, s'.tasks = s.tasks → s'.NumberedBy number := by
    intro s' he
    unfold NumberedBy
    rw [he]
    exact h.numbered
  cases c with
  | address c =>
    refine ⟨?_, h.along⟩
    change Reply.texts t.env (c.address t.env) = Reply.texts s.env (c.address s.env)
    rw [h.twin.env]
  | environment =>
    refine ⟨?_, h.along⟩
    change Reply.texts t.env t.env = Reply.texts s.env s.env
    rw [h.twin.env]
  | validate c =>
    obtain ⟨hresult, done⟩ := work_along h c (Made.inspect c).plain
    exact ⟨congrArg Reply.validated hresult, done⟩
  | declare c =>
    obtain ⟨hresult, done⟩ := work_along h c (Made.declare c s.env).plain
    unfold perform
    rw [h.twin.env]
    exact ⟨congrArg Reply.declared hresult, done⟩
  | register label c n =>
    obtain ⟨hresult, htwin⟩ := h.twin.register label c n
    exact ⟨congrArg Reply.registered hresult,
      h.beside (register_aside s label c n) (register_aside t label c n) htwin⟩
  | publish label c broadcast context payload =>
    obtain ⟨hresult, done⟩ := publish_along label c broadcast context payload h known
    exact ⟨congrArg Reply.published hresult, done⟩
  | deliver n messages =>
    obtain ⟨htags, done⟩ := deliver_along messages h known
    exact ⟨congrArg Reply.handed htags, done⟩
  | streamError n e =>
    exact ⟨rfl, h.beside (aside_streamError n e) (aside_streamError n e) (h.twin.streamError n e)⟩
  | close n =>
    exact ⟨rfl, h.move (.close n) (.close n) (h.twin.close n) trivial (tasks (close_tasks s n))⟩
  | advance ms => exact ⟨rfl, advance_along ms h known⟩
  | settle => exact ⟨rfl, run_along none h known⟩
  | ledger n call id =>
    obtain ⟨hreply, htwin⟩ := h.twin.callLedger (s.ledgerOf n) id call
    have right : t.perform (.ledger n call id) = t.callLedger (s.ledgerOf n) id call :=
      congrArg (t.callLedger · id call) (h.twin.ledgerOf_eq n)
    rw [right]
    refine ⟨hreply, h.move (.count _ id call) (.count _ id call) htwin trivial (tasks ?_)⟩
    cases call <;> rfl

theorem step_along (h : Ready number s t) (c : Command)
    (known : Entry.NumberedBy number (s.step c).2.journal) :
    (t.step c).1 = (s.step c).1 ∧ Along number s t (s.step c).2 (t.step c).2 := by
  have begun := h.beside aside_journal aside_journal h.twin.begun
  unfold step runNow at known ⊢
  dsimp only at known ⊢
  generalize ({ s with journal := [] } : Session) = s₁ at begun known ⊢
  generalize ({ t with journal := [] } : Session) = t₁ at begun ⊢
  have hgrows := (run_tends (s₁.perform c).2 (some (s₁.perform c).2.now)).grows
  obtain ⟨hreply, done⟩ := perform_along begun.2 c (known.of_prefix hgrows)
  have rest := run_along (some (s₁.perform c).2.now) done.2 known
  rw [done.2.twin.now]
  exact ⟨hreply, (begun.trans done).trans rest⟩

theorem steps_along (h : Ready number s t) (commands : List Command)
    (known : Entry.NumberedBy number (s.told commands)) :
    t.replies commands = s.replies commands ∧
      Entry.plain (t.told commands) = Entry.plain (s.told commands) ∧
      Along number s t (commands.foldl (fun s c => (s.step c).2) s)
        (commands.foldl (fun s c => (s.step c).2) t) := by
  induction commands generalizing s t with
  | nil => exact ⟨rfl, rfl, h.along⟩
  | cons c commands ih =>
    obtain ⟨hreply, first⟩ := step_along h c
      (fun e he => known e (List.mem_append_left _ he))
    obtain ⟨hreplies, hplain, rest⟩ := ih first.2 (fun e he => known e (List.mem_append_right _ he))
    refine ⟨?_, ?_, first.trans rest⟩
    · unfold replies
      rw [hreply, hreplies]
    · unfold told
      rw [Entry.plain_append, Entry.plain_append, first.2.twin.plain, hplain]

/-- Nothing but the plan for acknowledgements differs, and nothing has been handed over. -/
theorem Fresh.ready (fresh : s.Fresh) {faults : Plan Rpc BrokerError}
    (same : ∀ rpc, rpc ≠ .ack → faults.ahead rpc = s.broker.faults.ahead rpc) :
    Ready number s { s with broker.faults := faults } := by
  have fresh' : Fresh { s with broker.faults := faults } :=
    ⟨fresh.tasks, fresh.inFlight, fresh.returned, fresh.matched⟩
  have htwin : s.Twin { s with broker.faults := faults } :=
    ⟨_, s.journal, rfl, ⟨faults, s.broker.inFlight, rfl, same⟩, rfl⟩
  refine ⟨htwin, fresh.sound, fresh'.sound, fresh.tagged, fresh'.tagged, ?_⟩
  unfold NumberedBy
  rw [fresh.tasks]
  exact fun w hw => absurd hw List.not_mem_nil

/-- Two runs of a session that differ only in which acknowledgements fail, and with what error, go
the same way, as long as no two deliveries have one tag. Commands get the same replies, and the
journals tell the same at the same times: which payloads are handled, which outcomes are reported,
which requests are made, and how each delivery is resolved. Both runs make the same moves, with the
same ledgers after each of them. The journals may differ in whether acknowledgements have succeeded,
in logs and in the status of spans.

Moreover, whatever requests are going to fail, a delivery that is handed over or proceeds is
resolved in the same way, and leaves the same ledgers. -/
theorem failed_acks_steer_nothing (fresh : s.Fresh) (commands : List Command)
    (distinct : Entry.DistinctTags (s.told commands)) (faults : Plan Rpc BrokerError)
    (same : ∀ rpc, rpc ≠ .ack → faults.ahead rpc = s.broker.faults.ahead rpc) :
    let t : Session := { s with broker.faults := faults }
    (t.replies commands = s.replies commands ∧
      Entry.plain (t.told commands) = Entry.plain (s.told commands) ∧
      ∃ h, Abreast s t h (commands.foldl (fun s c => (s.step c).2) s)
        (commands.foldl (fun s c => (s.step c).2) t)) ∧
    ∀ (u : Session) (faults : Plan Rpc BrokerError),
      let v : Session := { u with broker.faults := faults }
      (∀ w, v.upshot (v.proceed w) = u.upshot (u.proceed w)) ∧
      ∀ stream message tag, v.upshot (v.handOver stream message tag).2 =
        u.upshot (u.handOver stream message tag).2 := by
  intro t
  constructor
  · obtain ⟨number, known⟩ := distinct.numbered
    obtain ⟨hreplies, hplain, abreast, -⟩ := steps_along (fresh.ready same) commands known
    exact ⟨hreplies, hplain, abreast⟩
  · intro u faults v
    constructor
    · intro w
      rw [proceed_upshot, proceed_upshot]
      rfl
    · intro stream message tag
      rw [handOver_upshot, handOver_upshot]
      rfl

end
end Session

namespace Trial

/-- The first acknowledgement is going to fail. -/
def unheard : Session :=
  { session [subscription 1 2] with
    broker := { redelivers := true, streams := [⟨"q", true⟩], faults := [(.ack, [some .ack])] } }

/-- A message is delivered and handled twice, and another one once. -/
def deliveries : List Command :=
  [.deliver 0 [(message, none)], .settle, .deliver 0 [(message, some 7)]]

end Trial

namespace Session
open Trial

set_option maxRecDepth 100000 in
/-- The second attempt succeeds, but it is not acknowledged in one of the runs. -/
theorem resolved_without_ack :
    let heard : Session := { unheard with broker.faults := [] }
    Entry.requests (unheard.told deliveries) =
      [(.nack 1 false true, true), (.ack 2 false, false), (.ack 7 false, true)] ∧
    Entry.requests (heard.told deliveries) =
      [(.nack 1 false true, true), (.ack 2 false, true), (.ack 7 false, true)] ∧
    Entry.plain (heard.told deliveries) = Entry.plain (unheard.told deliveries) := by
  have distinct : Entry.DistinctTags (unheard.told deliveries) := by decide +kernel
  have same : ∀ rpc, rpc ≠ .ack → Plan.ahead rpc [] = unheard.broker.faults.ahead rpc := by
    intro rpc hrpc
    cases rpc <;> first | rfl | exact absurd rfl hrpc
  have hboth := failed_acks_steer_nothing ⟨rfl, rfl, rfl, rfl⟩ deliveries distinct [] same
  exact ⟨by decide +kernel, by decide +kernel, hboth.1.2.1⟩

end Session
end Courier
