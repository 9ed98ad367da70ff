import Courier.Proofs.Account.Once
import Courier.Proofs.Contract
import Courier.Proofs.Declaration
import Courier.Proofs.Envelope
import Courier.Proofs.Registration
import Courier.Proofs.Session.Publishing

/-! The way of a payload from a publisher to the handler that it is meant for. -/
namespace Courier

theorem MessageId.ofNat_not_blank (n : Nat) : Text.allBlank (MessageId.ofNat n) = false := by
  have hdash : '-' ∈ (MessageId.ofNat n).toList := by
    unfold ofNat
    dsimp only
    rw [String.toList_ofList]
    simp
  exact List.all_eq_false.mpr ⟨'-', hdash, by decide⟩

/-- The payload of which a handler is seen to be called. -/
def Sight.handled? : Sight → Option Payload
  | .handled payload => some payload
  | _ => none

/-- The id under which a handler is seen to be told how an attempt went. -/
def Sight.told? : Sight → Option String
  | .told id _ => some id
  | _ => none

namespace Handler
variable (h : Handler) (sights : List Sight)

theorem handled_sees :
    (sights.filter h.sees).filterMap Sight.handled? = sights.filterMap Sight.handled? := by
  rw [List.filterMap_filter]
  congr 1
  funext sight
  cases sight with
  | told => exact ite_self _
  | _ => rfl

/-- A handler that reports is told everything. -/
theorem sees_of_reports (hr : h.reports = true) : sights.filter h.sees = sights := by
  refine List.filter_eq_self.mpr fun sight _ => ?_
  cases sight with
  | told => exact hr
  | _ => rfl

end Handler

namespace Session

theorem subscribed {s s' : Session} {label : String} {c : Contract} {n stream : Nat}
    {d : Dispatcher} (hd : s.dispatchers[n]? = some d)
    (h : s.register label c n = (.ok stream, s')) :
    s'.subscriptions[stream]? = some ⟨⟨label, c, c.address s.env⟩, d.ledger⟩ := by
  unfold register act at h
  rw [hd] at h
  dsimp only at h
  generalize (c.register s.env d.registry).run (s.desk d.ledger) = out at h
  obtain ⟨⟨_ | _, registry⟩, d'⟩ := out
  · cases h
  · cases h
    exact List.getElem?_concat_length

theorem register_ok {s s' : Session} {label : String} {c : Contract} {n stream : Nat}
    (h : s.register label c n = (.ok stream, s')) :
    Entry.requests (s.since s') = (c.subscribing s.env).map (fun r => (r, true)) ∧
      ∃ ledger, s'.subscriptions[stream]? = some ⟨⟨label, c, c.address s.env⟩, ledger⟩ := by
  cases hd : s.dispatchers[n]? with
  | none =>
    unfold register at h
    rw [hd] at h
    cases h
  | some d =>
    refine ⟨?_, d.ledger, subscribed hd h⟩
    obtain ⟨hresult, hrequests, -, -⟩ := register_eq label c hd
    have hall : (s.registration label c n).requests = Entry.requests (s.since s') := by
      unfold registration
      rw [h]
    have hresult' : (.ok stream : Except TopologyError Nat) = _ :=
      (congrArg Prod.fst h).symm.trans hresult
    rw [← hall, hrequests]
    cases hreg : d.registry.register (c.address s.env) c.payloadType.tag with
    | error e =>
      rw [Contract.register_refused hreg] at hresult'
      cases hresult'
    | ok claimed =>
      obtain ⟨hout, hsame⟩ := Contract.register_claiming hreg (s.desk d.ledger)
      rw [hout] at hresult'
      rw [hsame]
      cases hsub : ((c.subscribe s.env).run.run (s.desk d.ledger)).1 with
      | error e =>
        rw [hsub] at hresult'
        cases hresult'
      | ok => exact Contract.subscribe_requests s.env hsub

theorem publish_ok {p p' : Session} {label : String} {c : Contract}
    {context : List (String × String)} {payload : Payload} {id : String}
    (h : p.publish label c false context payload = (.ok id, p')) :
    Text.allBlank id = false ∧ ∃ body rest,
      (⟨id, payload⟩ : Envelope).encode c.payloadType = .ok body ∧
      (rest = [] ∨ rest = [.request (.waitForConfirms Contract.confirmTimeout) true]) ∧
      Entry.own (p.since p') = (.persisted c.payloadType id payload ::
        .request (.publish c.exchange.name (c.address p.env) (TraceContext.inject context) body)
          true :: rest).filter c.handler.hears := by
  obtain ⟨b, confirm, hresult, hentered⟩ :=
    p.publish_enters label c false context payload rfl
  rw [h] at hresult hentered
  obtain ⟨body, rest, rfl, hbody, hrest, htrace⟩ := Contract.sending_ok hresult.symm
  have hown := hentered.own_since
  rw [htrace] at hown
  refine ⟨MessageId.ofNat_not_blank p.drawn, body, _, hbody, ?_, hown⟩
  rcases hrest with rfl | rfl
  · exact Or.inl rfl
  · exact Or.inr rfl

/-- A body that can be read leads to one call of the handler, with the payload, and the handler is
told the id, once its answer is there and nothing else before. -/
theorem Progress.shows {sub : Subscription} {stream : Nat} {d : Delivery} {tasks : List Task}
    {sights : List Sight} (hp : Progress sub stream d tasks sights) {e : Envelope}
    (read : Envelope.decode sub.consumer.contract.payloadType d.message.body = .ok e) :
    sights.filterMap Sight.handled? = [e.payload] ∧
      (∀ id ∈ sights.filterMap Sight.told?, id = e.id) ∧
      ((∀ t ∈ tasks, t.stage = .delayed) → sights.filterMap Sight.told? = [e.id]) := by
  have same : ∀ {e' : Envelope},
      Envelope.decode sub.consumer.contract.payloadType d.message.body = .ok e' → e' = e :=
    fun read' => Except.ok.inj (read'.symm.trans read)
  rcases hp with ⟨unread⟩ | ⟨read', -, stage⟩ | ⟨read', -, -, -⟩ | @⟨_, failure, r, ok, read'⟩
  · rw [unread] at read
    cases read
  · rw [same read']
    refine ⟨rfl, fun _ h => absurd h List.not_mem_nil, fun h => ?_⟩
    rw [h _ List.mem_cons_self] at stage
    cases stage
  · rw [same read']
    exact ⟨rfl, fun _ h => List.mem_singleton.mp h, fun _ => rfl⟩
  · rw [same read']
    have hhandled : (sub.consumer.ending d r ok).filterMap Sight.handled? = [] := by
      unfold Consumer.ending
      split <;> rfl
    have htold : (Sight.handled e.payload :: .told e.id failure ::
        sub.consumer.ending d r ok).filterMap Sight.told? = [e.id] := by
      unfold Consumer.ending
      split <;> rfl
    refine ⟨congrArg (e.payload :: ·) hhandled, ?_, fun _ => htold⟩
    rw [htold]
    exact fun _ h => List.mem_singleton.mp h

/-- What is under way under a number can be brought to its end. -/
theorem Sound.tasksOf_ends {s : Session} (hs : s.Sound) (n : Nat) :
    ∃ g s', Run Works s g s' ∧ g.length ≤ 2 ∧ s'.tasksOf n = [] := by
  by_cases hnone : s.tasksOf n = []
  · exact ⟨[], s, .start, Nat.zero_le 2, hnone⟩
  · obtain ⟨t, ht⟩ := List.exists_mem_of_ne_nil _ hnone
    obtain ⟨hmem, hserial⟩ := List.mem_filter.mp ht
    have hn : t.serial = n := of_decide_eq_true hserial
    obtain ⟨g, s', works, hlength, hgone⟩ := hs.ends hmem
    rw [hn] at hgone
    exact ⟨g, s', works, hlength, hgone⟩

/-- A payload that the codec carries gets to the handler as it is. The publisher of the contract and
the dispatcher that has registered it agree on the queue; whenever the published bytes are handed to
the subscription, however often and in whatever company, the handler is called with the payload and
told the id under which it was persisted, once its answer is there. The delivery can always be
brought to its end. -/
theorem published_is_handled {s s₁ p p₁ : Session} {label label' : String} {c : Contract}
    {n stream : Nat} {context : List (String × String)} {payload : Payload} {id : String}
    (hs : s.Sound) (registered : s.register label c n = (.ok stream, s₁)) (place : p.env = s.env)
    (carries : c.payloadType.Carries payload)
    (published : p.publish label' c false context payload = (.ok id, p₁)) :
    ∃ body rest,
      Entry.own (p.since p₁) = (.persisted c.payloadType id payload ::
        .request (.publish c.exchange.name (c.address s.env) (TraceContext.inject context) body)
          true :: rest).filter c.handler.hears ∧
      (rest = [] ∨ rest = [.request (.waitForConfirms Contract.confirmTimeout) true]) ∧
      Entry.requests (s.since s₁) = (c.subscribing s.env).map (fun r => (r, true)) ∧
      ∀ (allowed : Session → Deed → Prop) (before after : List Record) (s₂ s₃ s₄ : Session)
        (deed : Deed) (sub : Subscription) (d : Delivery), Run allowed s₁ before s₂ →
        Move s₂ deed s₃ → deed = .arrived sub stream d ∨ deed = .returned sub stream d →
        d.message.body = body → Run allowed s₃ after s₄ →
        let seen := accountOf (s₂.broker.handedOver + 1) (before ++ ⟨deed, s₂.since s₃⟩ :: after)
        sub.consumer.contract = c ∧
          seen.filterMap Sight.handled? = [payload] ∧
          (∀ i ∈ seen.filterMap Sight.told?, i = id) ∧
          ((∀ t ∈ s₄.tasksOf (s₂.broker.handedOver + 1), t.stage = .delayed) →
            c.handler.reports = true → seen.filterMap Sight.told? = [id]) ∧
          ∃ g s₅, Run Works s₄ g s₅ ∧ g.length ≤ 2 ∧
            s₅.tasksOf (s₂.broker.handedOver + 1) = [] := by
  obtain ⟨hrequests, ledger, hsub⟩ := register_ok registered
  obtain ⟨hblank, body, rest, hbody, hrest, hown⟩ := publish_ok published
  have hs₁ : s₁.Sound := by
    have hs₁' := hs.move (.aside (register_aside s label c n))
    rwa [registered] at hs₁'
  have hread : Envelope.decode c.payloadType body = .ok ⟨id, payload⟩ := by
    rw [Envelope.body_of_encode hbody, Envelope.decode_bytes carries, hblank]
    rfl
  rw [place] at hown
  refine ⟨body, rest, hown, hrest, hrequests, ?_⟩
  intro allowed before after s₂ s₃ s₄ deed sub d run m hd hsame run'
  have hknown := run.keeps (P := fun t => t.subscriptions[stream]? = some _)
    (fun hk _ m => m.known hk) hsub
  obtain ⟨hsub', -⟩ := progress_of_handOver (run.sound hs₁) m hd
  have hc : sub = ⟨⟨label, c, c.address s.env⟩, ledger⟩ :=
    Option.some.inj (hsub'.symm.trans hknown)
  obtain ⟨sights, hprogress, hseen⟩ := progress_of_run hs₁ run m hd run'
  rw [hc] at hprogress hseen
  obtain ⟨hhandled, htold, hover⟩ := hprogress.shows (e := ⟨id, payload⟩) (hsame ▸ hread)
  intro seen
  have hseen' : seen = sights.filter c.handler.sees := hseen
  have hs₄ : s₄.Sound := run'.sound ((run.sound hs₁).move m)
  refine ⟨congrArg (·.consumer.contract) hc, ?_, ?_, ?_, hs₄.tasksOf_ends _⟩
  · rw [hseen', Handler.handled_sees]
    exact hhandled
  · rw [hseen']
    intro i hi
    exact htold i ((List.filter_sublist.filterMap _).subset hi)
  · intro hanswered hreports
    rw [hseen', Handler.sees_of_reports _ _ hreports]
    exact hover hanswered

end Session

namespace Trial

/-- There is a subscription to the queue of a contract. -/
def joined : Session := (home.register "c" (contract 0 0) 0).2

def posted : Except PublishError String × Session :=
  home.publish "p" (contract 0 0) false [("k", "v")] (.text "x\n")

end Trial

namespace Session
open Trial

theorem text_is_handled :
    ∃ body rest,
      Entry.own (home.since posted.2) = .persisted .text (MessageId.ofNat 0) (.text "x\n") ::
        .request (.publish "" ((contract 0 0).address "dev") [("k", "v")] body) true :: rest ∧
      ∃ sub, joined.subscriptions[0]? = some sub ∧
        (accountOf 1 [⟨.arrived sub 0 (joined.handed 0 ⟨[], body⟩ none),
            joined.since (joined.arrive sub 0 ⟨[], body⟩ none)⟩]).filterMap Sight.handled? =
          [.text "x\n"] := by
  have hs : home.Sound := Fresh.sound ⟨rfl, rfl, rfl, rfl⟩
  have registered : home.register "c" (contract 0 0) 0 = (.ok 0, joined) := by
    have hstream : (home.register "c" (contract 0 0) 0).1.toOption = some 0 := by decide +kernel
    unfold joined
    generalize home.register "c" (contract 0 0) 0 = out at hstream
    obtain ⟨_ | stream, s⟩ := out <;> cases hstream
    rfl
  have published : home.publish "p" (contract 0 0) false [("k", "v")] (.text "x\n") =
      (.ok (MessageId.ofNat 0), posted.2) := Prod.ext rfl rfl
  have carries : (contract 0 0).payloadType.Carries (.text "x\n") :=
    ⟨trivial, rfl, by decide, by decide⟩
  obtain ⟨body, rest, hown, hrest, -, hall⟩ :=
    published_is_handled hs registered rfl carries published
  have hsub := subscribed rfl registered
  have hopen : joined.broker.isOpen 0 = true := by decide +kernel
  have arrived := Move.arrive (s := joined) ⟨[], body⟩ none hsub hopen
  obtain ⟨-, hhandled, -⟩ := hall (fun _ _ => True) [] [] _ _ _ _ _ _ .start arrived (.inl rfl) rfl
    .start
  have hnumber : joined.broker.handedOver = 0 := by decide +kernel
  rw [hnumber] at hhandled
  refine ⟨body, rest, ?_, _, hsub, hhandled⟩
  have hheard : ∀ e ∈ rest, (contract 0 0).handler.hears e = true := fun e _ => by
    cases e <;> rfl
  rw [hown, List.filter_cons_of_pos rfl, List.filter_cons_of_pos rfl,
    List.filter_eq_self.mpr hheard]
  rfl

end Session
end Courier
