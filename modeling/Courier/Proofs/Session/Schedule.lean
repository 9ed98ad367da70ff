import Courier.Proofs.Session.Aside
import Courier.Proofs.Session.Tagged
import Mathlib.Data.List.Perm.Subperm

/-! The clock is one way to order moves: whatever a session does at a command is a run. -/
namespace Courier

namespace Session

/-- What becomes of deliveries under way. -/
def Works (_ : Session) : Deed → Prop
  | .concluded .. | .gaveBack .. => True
  | _ => False

/-- What becomes of deliveries under way and of messages to be handed over again. The broker numbers
its deliveries. -/
def Stirs (s : Session) : Deed → Prop
  | .returned _ _ d => d.tag = s.broker.handedOver + 1
  | .concluded .. | .gaveBack .. | .lost _ => True
  | _ => False

/-- What a session does without anything from outside. The broker numbers its deliveries. -/
def Inner (s : Session) : Deed → Prop
  | .returned _ _ d => d.tag = s.broker.handedOver + 1
  | .arrived .. | .closed _ | .counted .. => False
  | _ => True

/-- What a command can bring about. -/
def Causes (c : Command) (s : Session) : Deed → Prop
  | .arrived _ n d =>
    match c with
    | .deliver stream messages => stream = n ∧ ∃ tag, (d.message, tag) ∈ messages ∧
      d.tag = tag.getD (s.broker.handedOver + 1)
    | .publish .. => d.tag = s.broker.handedOver + 1
    | _ => False
  | .closed n => c = .close n
  | .counted _ id => ∃ dispatcher call, c = .ledger dispatcher call id
  | d => s.Inner d

/-- A delivery that goes on has waited long enough. -/
def Ripe (s : Session) : Deed → Prop
  | .concluded _ n d _ _ _ | .gaveBack _ n d =>
    ∃ t ∈ s.tasks, t.stream = n ∧ t.delivery = d ∧ t.due ≤ s.now
  | _ => True

/-- Deeds that are allowed, when they are due. -/
def Due (allowed : Session → Deed → Prop) (s : Session) (d : Deed) : Prop := allowed s d ∧ s.Ripe d

theorem Works.stirs {s : Session} {d : Deed} (h : s.Works d) : s.Stirs d := by
  cases d with
  | concluded | gaveBack => trivial
  | _ => exact h.elim

theorem Stirs.inner {s : Session} {d : Deed} (h : s.Stirs d) : s.Inner d := by
  cases d with
  | returned => exact h
  | concluded | gaveBack | lost => trivial
  | _ => exact h.elim

theorem Works.inner {s : Session} {d : Deed} (h : s.Works d) : s.Inner d := h.stirs.inner

theorem Inner.causes {s : Session} {d : Deed} (h : s.Inner d) (c : Command) : Causes c s d := by
  cases d with
  | arrived | closed | counted => exact h.elim
  | _ => exact h

/-- A command may bring on what is under way. Nothing of that is done aside. -/
theorem Works.causes {s : Session} {d : Deed} (h : s.Works d) (c : Command) :
    Causes c s d ∧ d ≠ .aside := by
  refine ⟨h.inner.causes c, ?_⟩
  rintro rfl
  exact h

/-- A session gets to another by such deeds. -/
def Reaches (allowed : Session → Deed → Prop) (s s' : Session) : Prop := ∃ h, Run allowed s h s'

/-- A session gets to another by such deeds, one at least. -/
def GoesOn (allowed : Session → Deed → Prop) (s s' : Session) : Prop :=
  ∃ h, h ≠ [] ∧ Run allowed s h s'

section
variable {allowed allowed' : Session → Deed → Prop} {s s' s'' : Session} {d : Deed}

theorem Reaches.refl (s : Session) : Reaches allowed s s := ⟨[], .start⟩

theorem Reaches.trans (h : Reaches allowed s s') (h' : Reaches allowed s' s'') :
    Reaches allowed s s'' := by
  obtain ⟨_, run⟩ := h
  obtain ⟨_, run'⟩ := h'
  exact ⟨_, run.append run'⟩

theorem Reaches.mono (h : Reaches allowed s s') (weaker : ∀ s d, allowed s d → allowed' s d) :
    Reaches allowed' s s' := by
  obtain ⟨_, run⟩ := h
  exact ⟨_, run.mono weaker⟩

theorem Move.reaches (m : Move s d s') (ok : allowed s d) : Reaches allowed s s' :=
  ⟨_, Run.single m ok⟩

theorem Move.goesOn (m : Move s d s') (ok : allowed s d) : GoesOn allowed s s' :=
  ⟨_, List.cons_ne_nil _ _, Run.single m ok⟩

theorem GoesOn.reaches (h : GoesOn allowed s s') : Reaches allowed s s' := by
  obtain ⟨_, -, run⟩ := h
  exact ⟨_, run⟩

theorem GoesOn.trans (h : GoesOn allowed s s') (h' : Reaches allowed s' s'') :
    GoesOn allowed s s'' := by
  obtain ⟨_, hne, run⟩ := h
  obtain ⟨_, run'⟩ := h'
  exact ⟨_, List.append_ne_nil_of_left_ne_nil hne _, run.append run'⟩

theorem Reaches.sound (h : Reaches allowed s s') (hs : s.Sound) : s'.Sound := by
  obtain ⟨_, run⟩ := h
  exact run.sound hs

/-- Streams stay open as long as none is closed. -/
theorem Reaches.isOpen (h : Reaches allowed s s') (ok : ∀ s n, ¬ allowed s (.closed n)) {n : Nat}
    (ho : s.broker.isOpen n = true) : s'.broker.isOpen n = true := by
  obtain ⟨_, run⟩ := h
  refine run.keeps (fun ho hd m => m.isOpen ?_ ho) ho
  rintro rfl
  exact ok _ n hd

theorem dequeue_enqueue {t : Task} (h : t.serial ∉ s.tasks.map Task.serial) :
    (s.enqueue t).dequeue t = s := by
  have hf : (s.tasks ++ [t]).filter (fun t' => t'.serial ≠ t.serial) = s.tasks := by
    rw [List.filter_append, List.filter_singleton]
    have hs : s.tasks.filter (fun t' => t'.serial ≠ t.serial) = s.tasks := by
      rw [List.filter_eq_self]
      intro t' ht'
      have : t'.serial ≠ t.serial := fun e => h (e ▸ List.mem_map_of_mem ht')
      simpa using this
    rw [hs]
    simp
  unfold enqueue dequeue
  dsimp only
  rw [hf]

theorem Sound.dequeue_enqueue {t : Task} (h : (s.enqueue t).Sound) :
    (s.enqueue t).dequeue t = s := by
  refine Session.dequeue_enqueue fun hm => ?_
  have hnd : ((s.tasks ++ [t]).map Task.serial).Nodup := h.serials
  rw [List.map_append] at hnd
  exact (List.nodup_append.mp hnd).2.2 _ hm _ (List.mem_singleton_self _) rfl

section
variable {sub : Subscription} {t : Task} {id : String} {answer : Answer}

theorem delayedTask_mem (h : (s.conclude sub t id answer).1 = .requeued) :
    s.delayedTask sub t ∈ (s.conclude sub t id answer).2.tasks := by
  obtain ⟨hv, he⟩ := conclude_effect s sub t id answer
  rw [hv] at h
  rw [he.tasks, if_pos h]
  exact List.mem_append_right _ (List.mem_singleton_self _)

theorem proceed_delayed (hsub : s.subscriptions[t.stream]? = some sub)
    (hstage : t.stage = .delayed) :
    (s.dequeue t).proceed t = (s.dequeue t).giveBack sub t := by
  have hsub' : (s.dequeue t).subscriptions[t.stream]? = some sub := hsub
  unfold proceed
  rw [hsub']
  dsimp only
  rw [hstage]

/-- A delivery that has got its answer is concluded. It is given back at once if it is to be sent
back without a delay. -/
theorem proceed_handling (hsub : s.subscriptions[t.stream]? = some sub)
    (hstage : t.stage = .handling id answer) :
    (s.dequeue t).proceed t =
      if (s.conclude sub t id answer).1 = .requeued ∧ sub.consumer.contract.retryInterval = 0 then
        ((s.conclude sub t id answer).2.dequeue (s.delayedTask sub t)).giveBack sub
          (s.delayedTask sub t)
      else (s.conclude sub t id answer).2 := by
  have hsub' : (s.dequeue t).subscriptions[t.stream]? = some sub := hsub
  have htasks : ((s.dequeue t).attend sub t.serial t.delivery.tag
      (sub.consumer.conclude t.delivery id answer)).2.tasks = (s.dequeue t).tasks := rfl
  have hnow : ((s.dequeue t).attend sub t.serial t.delivery.tag
      (sub.consumer.conclude t.delivery id answer)).2.now = s.now := rfl
  unfold proceed conclude
  rw [hsub']
  dsimp only
  rw [hstage]
  dsimp only
  generalize (s.dequeue t).attend sub t.serial t.delivery.tag
    (sub.consumer.conclude t.delivery id answer) = result at htasks hnow ⊢
  obtain ⟨r, s₁⟩ := result
  dsimp only at htasks hnow ⊢
  have htask : s₁.delayedTask sub t = s.delayedTask sub t := by
    unfold delayedTask waitEnd
    rw [hnow]
  have hdelay : s₁.delay sub t = s₁.enqueue (s.delayedTask sub t) := congrArg s₁.enqueue htask
  by_cases hr : r = .requeued
  · rw [if_neg (by simp [hr]), if_pos hr]
    by_cases hz : sub.consumer.contract.retryInterval = 0
    · have hback : (s₁.enqueue (s.delayedTask sub t)).dequeue (s.delayedTask sub t) = s₁ := by
        apply dequeue_enqueue
        rw [htasks]
        exact serial_notMem_dequeue s t
      rw [if_pos hz, if_pos ⟨hr, hz⟩, hdelay, hback]
      rfl
    · rw [if_neg hz, if_neg fun h => hz h.2]
  · rw [if_pos hr, if_neg fun h => hr h.1, if_neg hr]

end

/-- A delivery that proceeds is concluded or given back, or both at once. -/
theorem proceed_goesOn (hs : s.Sound) {t : Task} (ht : t ∈ s.tasks) (hdue : t.due ≤ s.now) :
    GoesOn (Due Works) s ((s.dequeue t).proceed t) := by
  obtain ⟨sub, hsub, -⟩ := hs.attended t ht
  cases hstage : t.stage with
  | delayed =>
    rw [proceed_delayed hsub hstage]
    exact (Move.giveBack ht hsub hstage).goesOn ⟨trivial, t, ht, rfl, rfl, hdue⟩
  | handling id answer =>
    have m := Move.conclude ht hsub hstage
    have first : GoesOn (Due Works) s (s.conclude sub t id answer).2 :=
      m.goesOn ⟨trivial, t, ht, rfl, rfl, hdue⟩
    rw [proceed_handling hsub hstage]
    split
    · next h =>
      obtain ⟨hr, hz⟩ := h
      have hmem := delayedTask_mem hr
      have hnow : (s.delayedTask sub t).due ≤ (s.conclude sub t id answer).2.now := by
        have hsame : (s.conclude sub t id answer).2.now = s.now := conclude_now s sub t id answer
        rw [hsame]
        change s.now + min sub.consumer.contract.retryInterval longestWait ≤ s.now
        omega
      exact first.trans ((Move.giveBack hmem (m.known hsub) rfl).reaches
        ⟨trivial, _, hmem, rfl, rfl, hnow⟩)
    · exact first

theorem proceed_reaches (hs : s.Sound) {t : Task} (ht : t ∈ s.tasks) (hdue : t.due ≤ s.now) :
    Reaches (Due Works) s ((s.dequeue t).proceed t) := (proceed_goesOn hs ht hdue).reaches

/-- A delivery waits for its handler as long as the handler's turn takes. -/
theorem accept_due {sub : Subscription} {stream : Nat} {d : Delivery} {wait : Nat} {t : Task}
    {s' : Session} (h : s.accept sub stream d = (some (wait, t), s')) :
    t.due = s'.waitEnd wait := by
  unfold accept at h
  dsimp only at h
  split at h
  · cases h
  · cases h
    rfl

section
variable {sub : Subscription} {stream : Nat} {message : Message} {tag : Option Nat}

/-- A delivery that goes on when it has just begun, for its handler takes no time. -/
def prompt? (s : Session) (sub : Subscription) (stream : Nat) (message : Message)
    (tag : Option Nat) : Option Task :=
  ((s.handing stream message tag).accept sub stream (s.handed stream message tag)).1.bind
    fun (wait, t) => if wait = 0 then some t else none

/-- A message that is handed over arrives, and goes on from there. -/
theorem handOver_eq (hs : s.Sound) (hsub : s.subscriptions[stream]? = some sub) :
    s.handOver stream message tag = ((s.handed stream message tag).tag,
      match s.prompt? sub stream message tag with
      | none => s.arrive sub stream message tag
      | some t => ((s.arrive sub stream message tag).dequeue t).proceed t) := by
  have hs' := hs.arrive message tag hsub
  unfold handOver prompt?
  unfold arrive at hs' ⊢
  unfold handing handed at hs' ⊢
  dsimp only at hs' ⊢
  rw [hsub]
  dsimp only
  generalize Session.accept { s with broker := (s.broker.handOver stream message tag).2 } sub
    stream ⟨(s.broker.handOver stream message tag).1, message⟩ = result at hs' ⊢
  obtain ⟨_ | ⟨wait, t⟩, s₁⟩ := result
  · rfl
  · dsimp only [Option.bind] at hs' ⊢
    by_cases hw : wait = 0
    · rw [if_pos hw, if_pos hw]
      dsimp only
      rw [hs'.dequeue_enqueue]
    · rw [if_neg hw, if_neg hw]

theorem prompt?_due {t : Task} (h : s.prompt? sub stream message tag = some t) :
    t ∈ (s.arrive sub stream message tag).tasks ∧
      t.due ≤ (s.arrive sub stream message tag).now := by
  unfold prompt? at h
  unfold arrive
  generalize hr : (s.handing stream message tag).accept sub stream (s.handed stream message tag) =
    result at h ⊢
  obtain ⟨_ | ⟨wait, t'⟩, s₁⟩ := result
  · cases h
  · dsimp only [Option.bind] at h ⊢
    split at h
    · next hw =>
      obtain rfl := Option.some.inj h
      constructor
      · exact List.mem_append_right _ (List.mem_singleton_self _)
      · rw [accept_due hr, hw]
        exact Nat.le_of_eq (congrArg (s₁.now + ·) (Nat.zero_min _))
    · cases h

theorem handOver_reaches (hs : s.Sound) (hsub : s.subscriptions[stream]? = some sub)
    (message : Message) (tag : Option Nat) :
    Reaches (Due Works) (s.arrive sub stream message tag) (s.handOver stream message tag).2 := by
  rw [handOver_eq hs hsub]
  dsimp only
  cases hp : s.prompt? sub stream message tag with
  | none => exact .refl _
  | some t =>
    obtain ⟨ht, hdue⟩ := prompt?_due hp
    exact proceed_reaches (hs.arrive message tag hsub) ht hdue

end

/-- What becomes of deliveries under way takes nothing from the messages that were returned. -/
theorem Move.returned_prefix (m : Move s d s') (hd : s.Works d) :
    s.broker.returned <+: s'.broker.returned := by
  cases m with
  | conclude => exact conclude_returned .. ▸ List.prefix_rfl
  | @giveBack sub t =>
    rw [(giveBack_effect s sub t).broker]
    rcases s.broker.call_nack_returned_cases t.delivery.tag with hr | ⟨p, -, hr⟩
    · exact hr ▸ List.prefix_rfl
    · exact hr ▸ List.prefix_append _ _
  | _ => exact hd.elim

theorem Reaches.returned_prefix (h : Reaches Works s s') :
    s.broker.returned <+: s'.broker.returned := by
  obtain ⟨_, run⟩ := h
  induction run with
  | start => exact List.prefix_rfl
  | next _ m hd ih => exact ih.trans (m.returned_prefix hd)

theorem Sound.known (hs : s.Sound) {n : Nat} (ho : s.broker.isOpen n = true) :
    ∃ sub, s.subscriptions[n]? = some sub := by
  have hlt : n < s.subscriptions.length := hs.matched ▸ isOpen_lt ho
  exact ⟨_, List.getElem?_eq_getElem hlt⟩

theorem handBack_goesOn (hs : s.Sound) {p : Parcel} (hp : p ∈ s.broker.returned) :
    GoesOn (Due Stirs) s (s.handBack p) ∧
      s.broker.returned.erase p <+: (s.handBack p).broker.returned := by
  unfold handBack
  dsimp only
  cases ho : (s.takeReturned p).broker.isOpen p.stream with
  | false => exact ⟨(Move.lose hp ho).goesOn ⟨trivial, trivial⟩, List.prefix_rfl⟩
  | true =>
    obtain ⟨sub, hsub⟩ := hs.known ho
    have hagain : GoesOn (Due Stirs) s _ := (Move.again hp hsub ho).goesOn ⟨rfl, trivial⟩
    have hworks := handOver_reaches (hs.takeReturned p) hsub p.message none
    refine ⟨hagain.trans (hworks.mono fun _ _ hd => ⟨hd.1.stirs, hd.2⟩), ?_⟩
    have hret := (arrive_broker (s.takeReturned p) sub p.stream p.message none).2
    have hpre := Reaches.returned_prefix (hworks.mono fun _ _ hd => hd.1)
    rw [hret] at hpre
    exact hpre

theorem handBacks_reach (ps : List Parcel) (hs : s.Sound) (hps : ps.Subperm s.broker.returned) :
    Reaches (Due Stirs) s (ps.foldl handBack s) := by
  induction ps generalizing s with
  | nil => exact .refl s
  | cons p ps ih =>
    obtain ⟨h, hpre⟩ := handBack_goesOn hs (hps.subset List.mem_cons_self)
    have hrest := hps.erase p
    rw [List.erase_cons_head] at hrest
    exact h.reaches.trans (ih (h.reaches.sound hs) (hrest.trans hpre.sublist.subperm))

end
end Session

theorem Parcel.insertByTag_perm (p : Parcel) (ps : List Parcel) :
    (p.insertByTag ps).Perm (p :: ps) := by
  induction ps with
  | nil => exact .refl _
  | cons q ps ih =>
    unfold insertByTag
    split
    · exact (ih.cons q).trans (.swap p q ps)
    · exact .refl _

/-- Sorting neither drops nor adds a parcel. -/
theorem Parcel.sortByTag_perm (ps : List Parcel) : (Parcel.sortByTag ps).Perm ps := by
  have folded : ∀ sorted : List Parcel,
      (ps.foldl (fun sorted p => p.insertByTag sorted) sorted).Perm (ps ++ sorted) := by
    induction ps with
    | nil => exact fun _ => .refl _
    | cons p ps ih =>
      intro sorted
      refine (ih _).trans ?_
      exact ((p.insertByTag_perm sorted).append_left ps).trans List.perm_middle
  have h := folded []
  rw [List.append_nil] at h
  exact h

namespace Session
section
variable {allowed : Session → Deed → Prop} {s s' : Session}

theorem redeliver_goesOn (hs : s.Sound) (hr : s.broker.returned ≠ []) :
    GoesOn (Due Stirs) s s.redeliver := by
  have hsub := (Parcel.sortByTag_perm s.broker.returned).subperm
  unfold redeliver
  cases hps : Parcel.sortByTag s.broker.returned with
  | nil =>
    have hperm := Parcel.sortByTag_perm s.broker.returned
    rw [hps] at hperm
    exact absurd hperm.nil_eq.symm hr
  | cons p ps =>
    rw [hps] at hsub
    obtain ⟨h, hpre⟩ := handBack_goesOn hs (hsub.subset List.mem_cons_self)
    have hrest := hsub.erase p
    rw [List.erase_cons_head] at hrest
    exact h.trans (handBacks_reach ps (h.reaches.sound hs) (hrest.trans hpre.sublist.subperm))

/-- The time and the journal have no part in what becomes of deliveries. -/
theorem aside_clock (now : Nat) : s.Aside { s with now } :=
  ⟨rfl, rfl, rfl, rfl, rfl, rfl, fun _ _ => rfl, List.prefix_rfl, List.prefix_rfl, id, s.journal,
    [],
    Or.inl rfl, (List.append_nil _).symm, fun _ h => absurd h List.not_mem_nil⟩

theorem aside_journal : s.Aside { s with journal := [] } :=
  ⟨rfl, rfl, rfl, rfl, rfl, rfl, fun _ _ => rfl, List.prefix_rfl, List.prefix_rfl, id, [], [],
    Or.inr rfl, rfl, fun _ h => absurd h List.not_mem_nil⟩

theorem aside_unrouted : s.Aside { s with broker.postings := [] } :=
  ⟨rfl, rfl, rfl, rfl, rfl, rfl, fun _ _ => rfl, List.prefix_rfl, List.prefix_rfl, id, s.journal,
    [], Or.inl rfl, (List.append_nil _).symm, fun _ h => absurd h List.not_mem_nil⟩

theorem aside_streamError (n : Nat) (e : BrokerError) : s.Aside (s.streamError n e) := by
  unfold streamError
  split
  · refine ⟨rfl, rfl, rfl, rfl, rfl, rfl, fun _ _ => rfl, List.prefix_rfl, List.prefix_rfl, id,
      s.journal, _, Or.inl rfl, rfl, ?_⟩
    intro entry he
    rw [List.mem_singleton.mp he]
  · exact Aside.refl s

/-- What the clock lets happen next. -/
inductive Next (s : Session) : Session → Prop
  | proceeds {t : Task} (ht : t ∈ s.tasks) (hdue : t.due ≤ s.now) :
      Next s ((s.dequeue t).proceed t)
  | redelivers (waits : ∀ t ∈ s.tasks, s.now < t.due) (hr : s.broker.returned ≠ []) :
      Next s s.redeliver
  | passes {due : Nat} (waits : ∀ t ∈ s.tasks, s.now < t.due) (hdue : s.nextDue? = some due) :
      Next s { s with now := due }

theorem waits_of_find? (h : s.tasks.find? (·.due ≤ s.now) = none) :
    ∀ t ∈ s.tasks, s.now < t.due := by
  simpa using h

theorem next?_next {horizon : Option Nat} (h : s.next? horizon = some s') : s.Next s' := by
  unfold next? at h
  split at h
  · next t ht =>
    cases Option.some.inj h
    exact .proceeds (List.mem_of_find?_eq_some ht) (by simpa using List.find?_some ht)
  · next hnone =>
    split at h
    · next hr =>
      cases Option.some.inj h
      exact .redelivers (waits_of_find? hnone) (by simpa using hr)
    · split at h
      · cases h
      · next due hdue =>
        split at h
        · cases Option.some.inj h
          exact .passes (waits_of_find? hnone) hdue
        · cases h

/-- When the clock stops, no delivery is due, and none will be up to the horizon. -/
theorem stopped_of_next? {horizon : Option Nat} (h : s.next? horizon = none) :
    s.broker.returned = [] ∧
      ∀ t ∈ s.tasks, s.now < t.due ∧ ∃ limit, horizon = some limit ∧ limit < t.due := by
  unfold next? at h
  split at h
  · cases h
  · next hnone =>
    split at h
    · cases h
    · next hr =>
      refine ⟨by simpa using hr, fun t ht => ⟨waits_of_find? hnone t ht, ?_⟩⟩
      have hmem := List.mem_map_of_mem (f := Task.due) ht
      split at h
      · next hd =>
        unfold nextDue? at hd
        rw [List.min?_eq_none_iff.mp hd] at hmem
        cases hmem
      · next due hd =>
        have first : due ≤ t.due := (List.min?_eq_some_iff.mp hd).2 _ hmem
        split at h
        · cases h
        · next hlimit =>
          cases horizon with
          | none => exact absurd rfl hlimit
          | some limit =>
            have beyond : limit < due := by simpa using hlimit
            exact ⟨limit, rfl, Nat.lt_of_lt_of_le beyond first⟩

/-- What becomes of deliveries under way hands nothing over. -/
theorem Run.hands_nothing {h : List Record} (run : Run Works s h s') :
    handOvers h = [] ∧ arrivedIn h = [] := by
  induction run with
  | start => exact ⟨rfl, rfl⟩
  | @next h s₁ d s₂ run m hd ih =>
    rw [handOvers_append, arrivedIn_append, ih.1, ih.2]
    cases d with
    | concluded | gaveBack => exact ⟨rfl, rfl⟩
    | _ => exact hd.elim

/-- A message from outside that is handed to an open stream arrives there once, and nothing else is
handed over. -/
theorem handOver_open (hs : s.Sound) {n : Nat} (ho : s.broker.isOpen n = true)
    (message : Message) (tag : Option Nat)
    (arrives : ∀ sub, allowed s (.arrived sub n (s.handed n message tag)))
    (works : ∀ s d, Due Works s d → allowed s d) :
    ∃ g, Run allowed s g (s.handOver n message tag).2 ∧ handOvers g = [(n, message)] ∧
      arrivedIn g = [(n, message)] := by
  obtain ⟨sub, hsub⟩ := hs.known ho
  obtain ⟨g, run⟩ := handOver_reaches hs hsub message tag
  obtain ⟨hands, arrivals⟩ := (run.mono fun _ _ hd => hd.1).hands_nothing
  have first : Run allowed s _ _ := Run.single (Move.arrive message tag hsub ho) (arrives sub)
  exact ⟨_, first.append (run.mono works), congrArg ((n, message) :: ·) hands,
    congrArg ((n, message) :: ·) arrivals⟩

theorem handOver_open_reaches (hs : s.Sound) {n : Nat} (ho : s.broker.isOpen n = true)
    (message : Message) (tag : Option Nat)
    (arrives : ∀ sub, allowed s (.arrived sub n (s.handed n message tag)))
    (works : ∀ s d, Due Works s d → allowed s d) :
    Reaches allowed s (s.handOver n message tag).2 := by
  obtain ⟨g, run, -⟩ := handOver_open hs ho message tag arrives works
  exact ⟨g, run⟩

/-- What a delivery does at the moment it is handed over opens and closes no stream. -/
theorem handOver_isOpen (hs : s.Sound) {n : Nat} (ho : s.broker.isOpen n = true)
    (message : Message) (tag : Option Nat) {k : Nat} (hk : s.broker.isOpen k = true) :
    (s.handOver n message tag).2.broker.isOpen k = true := by
  have reach : Reaches (fun _ d => ∀ k, d ≠ .closed k) s (s.handOver n message tag).2 :=
    handOver_open_reaches hs ho message tag (fun _ _ => Deed.noConfusion) fun _ d hd k => by
      rintro rfl
      exact hd.1
  exact reach.isOpen (fun _ k h => h k rfl) hk

/-- One message is handed to several streams. -/
theorem spread_reaches (message : Message) (streams : List Nat) (hs : s.Sound)
    (ho : ∀ n ∈ streams, s.broker.isOpen n = true)
    (arrives : ∀ s sub n, allowed s (.arrived sub n (s.handed n message none)))
    (works : ∀ s d, Due Works s d → allowed s d) (closed : ∀ s n, ¬ allowed s (.closed n)) :
    Reaches allowed s (streams.foldl (fun s n => (s.handOver n message none).2) s) := by
  induction streams generalizing s with
  | nil => exact .refl s
  | cons n streams ih =>
    have first := handOver_open_reaches hs (ho n List.mem_cons_self) message none
      (fun sub => arrives s sub n) works
    exact first.trans (ih (first.sound hs) fun n' hn' =>
      first.isOpen closed (ho n' (List.mem_cons_of_mem n hn')))

theorem streamOf?_isOpen {b : Broker} {queue : String} {n : Nat} (h : b.streamOf? queue = some n) :
    b.isOpen n = true := by
  unfold Broker.streamOf? at h
  obtain ⟨hlt, hp, -⟩ := List.findIdx?_eq_some_iff_getElem.mp h
  simp only [Bool.and_eq_true] at hp
  unfold Broker.isOpen
  rw [List.getElem?_eq_getElem hlt]
  exact hp.1

theorem destinations_isOpen {b : Broker} {p : Posting} {n : Nat} (h : n ∈ b.destinations p) :
    b.isOpen n = true := by
  unfold Broker.destinations at h
  split at h
  · obtain ⟨queue, -, hq⟩ := List.mem_filterMap.mp h
    exact streamOf?_isOpen hq
  · exact streamOf?_isOpen (Option.mem_toList.mp h)

/-- Messages are handed to all streams they are routed to. -/
theorem postings_reach (ps : List Posting) (hs : s.Sound)
    (arrives : ∀ s sub n message, allowed s (.arrived sub n (s.handed n message none)))
    (works : ∀ s d, Due Works s d → allowed s d) (closed : ∀ s n, ¬ allowed s (.closed n)) :
    Reaches allowed s (ps.foldl (fun s p => (s.broker.destinations p).foldl
      (fun s n => (s.handOver n p.message none).2) s) s) := by
  induction ps generalizing s with
  | nil => exact .refl s
  | cons p ps ih =>
    have first := spread_reaches p.message (s.broker.destinations p) hs
      (fun n hn => destinations_isOpen hn) (fun s sub n => arrives s sub n p.message) works closed
    exact first.trans (ih (first.sound hs))

/-- Messages that are delivered to an open stream arrive there, each of them once and in order. At a
closed stream none arrives. -/
theorem deliver_hands (messages : List (Message × Option Nat)) {n : Nat} (hs : s.Sound)
    (arrives : ∀ s sub message tag, (message, tag) ∈ messages →
      allowed s (.arrived sub n (s.handed n message tag)))
    (works : ∀ s d, Due Works s d → allowed s d) :
    ∃ g, Run allowed s g (s.deliver n messages).2 ∧ handOvers g = arrivedIn g ∧
      arrivedIn g = if s.broker.isOpen n then messages.map fun m => (n, m.1) else [] := by
  induction messages generalizing s with
  | nil => exact ⟨[], .start, rfl, (ite_self _).symm⟩
  | cons m messages ih =>
    obtain ⟨message, tag⟩ := m
    have rest := fun {s : Session} (hs : s.Sound) =>
      ih hs fun s sub message tag hm => arrives s sub message tag (List.mem_cons_of_mem _ hm)
    unfold deliver
    by_cases ho : s.broker.isOpen n = true
    · obtain ⟨g, run, hands, arrivals⟩ := handOver_open hs ho message tag
        (fun sub => arrives s sub message tag List.mem_cons_self) works
      obtain ⟨g', run', same, arrivals'⟩ := rest (run.sound hs)
      rw [handOver_isOpen hs ho message tag ho, if_pos rfl] at arrivals'
      rw [if_pos ho, if_pos ho]
      refine ⟨g ++ g', run.append run', ?_, ?_⟩
      · unfold handOvers arrivedIn at *
        rw [List.filterMap_append, List.filterMap_append, hands, arrivals, same]
      · unfold arrivedIn at *
        rw [List.filterMap_append, arrivals, arrivals']
        rfl
    · obtain ⟨g, run, same, arrivals⟩ := rest hs
      rw [if_neg ho] at arrivals ⊢
      rw [if_neg ho]
      exact ⟨g, run, same, arrivals⟩

/-- What is entered into the journal at commands. -/
def told (s : Session) : List Command → List Entry
  | [] => []
  | c :: rest => (s.step c).2.journal ++ (s.step c).2.told rest

/-- A command that leaves it to the broker to number deliveries. -/
def Untagged : Command → Prop
  | .deliver _ messages => ∀ m ∈ messages, m.2 = none
  | _ => True

theorem Causes.numbers {c : Command} {d : Deed} (h : Causes c s d) (hc : Untagged c) :
    s.Numbers d := by
  cases d with
  | arrived sub n dl =>
    cases c with
    | deliver stream messages =>
      obtain ⟨-, tag, hm, htag⟩ := h
      have hnone : tag = none := hc _ hm
      rw [hnone] at htag
      exact htag
    | publish => exact h
    | _ => exact h.elim
  | returned => exact h
  | _ => trivial

end
end Session
end Courier
