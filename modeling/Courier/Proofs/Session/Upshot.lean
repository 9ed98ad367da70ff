import Courier.Proofs.Account.Journal
import Courier.Proofs.Session.Tending

/-! What comes of a delivery at the moment it goes on: what the ledgers are then, and how it is
resolved. The broker has no part in that. -/
namespace Courier

/-- The resolution that is seen. -/
def Sight.resolution? : Sight → Option Resolution
  | .resolved r => some r
  | _ => none

/-- The resolutions that entries tell of. -/
def Entry.resolutions (entries : List Entry) : List Resolution :=
  (Entry.sights entries).filterMap Sight.resolution?

/-- No handler is kept from seeing a resolution. -/
theorem Handler.resolutions_seen (h : Handler) (sights : List Sight) :
    (sights.filter h.sees).filterMap Sight.resolution? = sights.filterMap Sight.resolution? := by
  rw [List.filterMap_filter]
  congr 1
  funext sight
  cases sight with
  | told => exact ite_self none
  | _ => rfl

theorem Broker.shows_resolutions (b : Broker) (r : Option Request) :
    (b.shows r).filterMap Sight.resolution? = [] := by
  cases r <;> rfl

theorem Resolution.seenAtOnce_resolutions (r : Resolution) :
    r.seenAtOnce.filterMap Sight.resolution? = if r = .requeued then [] else [r] := by
  unfold seenAtOnce
  split <;> rfl

namespace Session

/-- The ledgers at the end, and the resolutions on the way there. -/
def upshot (s s' : Session) : List Ledger × List Resolution :=
  (s'.ledgers, Entry.resolutions (s.since s'))

section
variable {s s' s'' : Session}

theorem upshot_self (s : Session) : s.upshot s = (s.ledgers, []) := by
  unfold upshot
  rw [since_self]
  rfl

theorem upshot_trans (h : s.journal <+: s'.journal) (h' : s'.journal <+: s''.journal) :
    s.upshot s'' = ((s'.upshot s'').1, (s.upshot s').2 ++ (s'.upshot s'').2) := by
  unfold upshot Entry.resolutions Entry.sights
  rw [since_trans h h', List.filterMap_append, List.filterMap_append]

theorem Tells.resolutions {serial tag : Nat} {sights : List Sight} {h : Handler}
    (tells : s.Tells s' serial tag (sights.filter h.sees)) :
    Entry.resolutions (s.since s') = sights.filterMap Sight.resolution? := by
  unfold Entry.resolutions
  rw [tells.sights, Handler.resolutions_seen]

theorem attend_grows {α : Type} (s : Session) (sub : Subscription) (serial tag : Nat)
    (work : StateM Desk α) : s.journal <+: (s.attend sub serial tag work).2.journal :=
  List.prefix_append _ _

end

section
variable (s : Session) (sub : Subscription)

theorem giveBack_upshot (w : Task) : s.upshot (s.giveBack sub w) = (s.ledgers, [.requeued]) := by
  have hledger := (Consumer.giveBack_effect w.delivery (s.desk sub.ledger)).ledger
  have htells := attend_tells s sub w.serial w.delivery.tag (Consumer.giveBack w.delivery)
    (Consumer.giveBack_sights w.delivery (s.desk sub.ledger))
  have hledgers : (s.giveBack sub w).ledgers = s.ledgers :=
    (congrArg (s.ledgers.set sub.ledger) hledger).trans (set_ledger s sub.ledger)
  have hresolutions : Entry.resolutions (s.since (s.giveBack sub w)) = _ := htells.resolutions
  unfold upshot
  rw [hledgers, hresolutions, List.filterMap_append, List.filterMap_append,
    Broker.shows_resolutions]
  rfl

/-- An answer is acted on as the verdict says. -/
theorem conclude_upshot (w : Task) (id : String) (answer : Answer) :
    let worked := s.attend sub w.serial w.delivery.tag (sub.consumer.conclude w.delivery id answer)
    worked.1 = s.verdict sub id answer ∧
      s.upshot worked.2 =
        (s.ledgers.set sub.ledger ((s.ledger sub.ledger).resolve id (s.verdict sub id answer)),
          if s.verdict sub id answer = .requeued then [] else [s.verdict sub id answer]) := by
  intro worked
  obtain ⟨hverdict, heffect⟩ :=
    Consumer.conclude_effect sub.consumer w.delivery id (s.desk sub.ledger) answer
  have hsights : ((sub.consumer.conclude w.delivery id answer).run (s.desk sub.ledger)).2.sights =
      .told id answer.failure? ::
        (s.broker.shows (sub.consumer.ackOf? w.delivery (s.verdict sub id answer)) ++
          (s.verdict sub id answer).seenAtOnce) :=
    sub.consumer.conclude_sights w.delivery id (s.desk sub.ledger) answer
  have hledgers : worked.2.ledgers = s.ledgers.set sub.ledger
      ((s.ledger sub.ledger).resolve id (s.verdict sub id answer)) :=
    congrArg (s.ledgers.set sub.ledger) heffect.ledger
  have hresolutions : Entry.resolutions (s.since worked.2) = _ :=
    (attend_tells s sub w.serial w.delivery.tag _ hsights).resolutions
  refine ⟨hverdict, ?_⟩
  unfold upshot
  rw [hledgers, hresolutions, List.filterMap_cons_none rfl, List.filterMap_append,
    Broker.shows_resolutions, Resolution.seenAtOnce_resolutions, List.nil_append]

/-- What a delivery that proceeds is going to come to. -/
def prospect (s : Session) (w : Task) : List Ledger × List Resolution :=
  match s.subscriptions[w.stream]? with
  | none => (s.ledgers, [])
  | some sub =>
    match w.stage with
    | .delayed => (s.ledgers, [.requeued])
    | .handling id answer =>
      let r := s.verdict sub id answer
      (s.ledgers.set sub.ledger ((s.ledger sub.ledger).resolve id r),
        if r = .requeued ∧ sub.consumer.contract.retryInterval ≠ 0 then [] else [r])

theorem proceed_upshot (w : Task) : s.upshot (s.proceed w) = s.prospect w := by
  unfold proceed prospect
  cases s.subscriptions[w.stream]? with
  | none => exact s.upshot_self
  | some sub =>
    cases w.stage with
    | delayed => exact s.giveBack_upshot sub w
    | handling id answer =>
      obtain ⟨hverdict, hupshot⟩ := s.conclude_upshot sub w id answer
      have hgrows := s.attend_grows sub w.serial w.delivery.tag
        (sub.consumer.conclude w.delivery id answer)
      dsimp only at hverdict hupshot ⊢
      generalize s.attend sub w.serial w.delivery.tag (sub.consumer.conclude w.delivery id answer) =
        worked at hverdict hupshot hgrows ⊢
      obtain ⟨r, s₁⟩ := worked
      dsimp only at hverdict hupshot hgrows ⊢
      rw [← hverdict] at hupshot ⊢
      by_cases hr : r = .requeued
      · rw [if_pos hr] at hupshot
        rw [if_neg (not_not.mpr hr)]
        by_cases hz : sub.consumer.contract.retryInterval = 0
        · have hback : s.upshot (s₁.giveBack sub w) = _ :=
            upshot_trans hgrows (s₁.attend_grows sub w.serial w.delivery.tag _)
          have hledgers : s₁.ledgers = _ := congrArg Prod.fst hupshot
          rw [giveBack_upshot, hupshot, hledgers] at hback
          rw [if_pos hz, if_neg (fun h => h.2 hz), hback, hr]
          rfl
        · rw [if_neg hz, if_pos ⟨hr, hz⟩]
          exact hupshot
      · rw [if_neg hr] at hupshot
        rw [if_pos hr, if_neg (fun h => hr h.1)]
        exact hupshot

end

section
variable (s : Session) (sub : Subscription) (stream : Nat)

/-- What a message comes to at the moment it is handed over: it is dropped if it cannot be read, and
proceeds at once if its handler takes no time. -/
def outlook (stream : Nat) (message : Message) : List Ledger × List Resolution :=
  match s.subscriptions[stream]? with
  | none => (s.ledgers, [])
  | some sub =>
    match Envelope.decode sub.consumer.contract.payloadType message.body with
    | .error _ => (s.ledgers, [.poisoned])
    | .ok e =>
      let turn := sub.consumer.turn (s.desk sub.ledger) e.payload
      if turn.wait = 0 then s.prospect ⟨0, stream, ⟨0, message⟩, 0, .handling e.id turn.answer⟩
      else (s.ledgers, [])

theorem prospect_of_same {s s' : Session} {w w' : Task}
    (subscriptions : s'.subscriptions = s.subscriptions) (ledgers : s'.ledgers = s.ledgers)
    (stream : w'.stream = w.stream) (stage : w'.stage = w.stage) :
    s'.prospect w' = s.prospect w := by
  unfold prospect verdict ledger
  rw [subscriptions, ledgers, stream, stage]

theorem accept_upshot_error {d : Delivery} {e : EnvelopeError}
    (h : Envelope.decode sub.consumer.contract.payloadType d.message.body = .error e) :
    s.upshot (s.accept sub stream d).2 = (s.ledgers, [.poisoned]) := by
  have hledgers := (accept_error s sub stream d h).2.ledgers
  have hsights : ((sub.consumer.accept d).run (s.desk sub.ledger)).2.sights =
      .told "" (some e.message) ::
        (s.broker.shows (sub.consumer.ackOf? d .poisoned) ++ [.resolved .poisoned]) :=
    sub.consumer.accept_error_sights d (s.desk sub.ledger) h
  have hresolutions := (s.accept_tells sub stream d hsights).resolutions
  rw [List.filterMap_cons_none rfl, List.filterMap_append, Broker.shows_resolutions] at hresolutions
  unfold upshot
  rw [hledgers, hresolutions]
  rfl

theorem accept_upshot_ok {d : Delivery} {e : Envelope}
    (h : Envelope.decode sub.consumer.contract.payloadType d.message.body = .ok e) :
    s.upshot (s.accept sub stream d).2 = (s.ledgers, []) := by
  have hledgers := (accept_ok s sub stream d h).2.ledgers
  have hsights : ((sub.consumer.accept d).run (s.desk sub.ledger)).2.sights =
      [.handled e.payload] := sub.consumer.accept_ok_sights d (s.desk sub.ledger) h
  have hresolutions := (s.accept_tells sub stream d hsights).resolutions
  unfold upshot
  rw [hledgers, hresolutions]
  rfl

/-- What comes of a message that is handed over depends on the subscriptions, on the ledgers and on
what the handlers have seen. -/
theorem handOver_upshot (message : Message) (tag : Option Nat) :
    s.upshot (s.handOver stream message tag).2 = s.outlook stream message := by
  unfold handOver outlook
  dsimp only
  cases s.subscriptions[stream]? with
  | none => exact s.upshot_self
  | some sub =>
    dsimp only
    -- The broker has counted the message and given it a tag; nothing below looks at either.
    generalize hs₀ : ({ s with broker := (s.broker.handOver stream message tag).2 } : Session) = s₀
    generalize hd₀ : (⟨(s.broker.handOver stream message tag).1, message⟩ : Delivery) = d
    have hbody : d.message = message := by rw [← hd₀]
    have hsame : s.upshot = s₀.upshot ∧ s.ledgers = s₀.ledgers ∧
        s.subscriptions = s₀.subscriptions ∧
          ∀ payload, sub.consumer.turn (s.desk sub.ledger) payload =
            sub.consumer.turn (s₀.desk sub.ledger) payload := by
      rw [← hs₀]
      exact ⟨rfl, rfl, rfl, fun _ => rfl⟩
    obtain ⟨hupshot, hledgers, hsubs, hturn⟩ := hsame
    have hgrows := (s₀.accept_tends sub stream d).grows
    rw [hupshot, hledgers, ← hbody]
    cases hread : Envelope.decode sub.consumer.contract.payloadType d.message.body with
    | error e =>
      have hnone := (accept_error s₀ sub stream d hread).1
      have hdropped := s₀.accept_upshot_error sub stream hread
      generalize s₀.accept sub stream d = accepted at hnone hdropped ⊢
      obtain ⟨_, s₁⟩ := accepted
      dsimp only at hnone hdropped
      subst hnone
      exact hdropped
    | ok e =>
      obtain ⟨hsome, heffect⟩ := accept_ok s₀ sub stream d hread
      have hbegun := s₀.accept_upshot_ok sub stream hread
      generalize s₀.accept sub stream d = accepted at hsome hbegun heffect hgrows ⊢
      obtain ⟨_, s₁⟩ := accepted
      dsimp only at hsome hbegun heffect hgrows
      subst hsome
      dsimp only
      rw [hturn]
      by_cases hw : (sub.consumer.turn (s₀.desk sub.ledger) e.payload).wait = 0
      · have hback := upshot_trans hgrows (s₁.proceed_tends (s₀.handlingTask sub stream d e)).grows
        rw [hbegun, proceed_upshot, List.nil_append] at hback
        rw [if_pos hw, if_pos hw, hback]
        exact prospect_of_same (heffect.subscriptions.trans hsubs.symm)
          (heffect.ledgers.trans hledgers.symm) rfl rfl
      · rw [if_neg hw, if_neg hw]
        exact hbegun

end
end Session
end Courier
