import Courier.Proofs.Account.Journal
import Courier.Proofs.Session.Schedule
import Courier.Proofs.Session.Tending
import Courier.Proofs.Twin.Session

/-! Two such sessions make the same moves, as time passes in both. Nothing but a tag that names two
deliveries could set them apart: an acknowledgement that fails leaves a message in flight, and
giving the other delivery back would give back this one. -/
namespace Courier

/-- All deliveries that entries are about have the number that goes with their tag. -/
def Entry.NumberedBy (number : Nat → Nat) (entries : List Entry) : Prop :=
  ∀ e ∈ entries, ∀ n tag, e.delivery = some (n, tag) → number tag = n

theorem Entry.NumberedBy.of_prefix {number : Nat → Nat} {es es' : List Entry}
    (h : Entry.NumberedBy number es') (hp : es <+: es') : Entry.NumberedBy number es :=
  fun e he => h e (hp.subset he)

namespace Session

/-- All deliveries under way have the number that goes with their tag. -/
def NumberedBy (number : Nat → Nat) (s : Session) : Prop :=
  ∀ w ∈ s.tasks, number w.delivery.tag = w.serial

/-- Two sessions make the same moves, one after the other, and are twins after each of them. -/
inductive Abreast (s t : Session) : List Deed → Session → Session → Prop
  | start (twin : s.Twin t) : Abreast s t [] s t
  | next {h s' t' d s'' t''} (before : Abreast s t h s' t') (left : Move s' d s'')
      (right : Move t' d t'') (twin : s''.Twin t'') : Abreast s t (h ++ [d]) s'' t''

/-- Twins that are built up by moves. Both brokers have the message of each delivery under way in
flight, and the number of the delivery goes with its tag. -/
structure Ready (number : Nat → Nat) (s t : Session) : Prop where
  twin : s.Twin t
  sound : s.Sound
  sound' : t.Sound
  tagged : s.Tagged
  tagged' : t.Tagged
  numbered : s.NumberedBy number

/-- The one gets to `s'` and the other to `t'`, abreast, and both are ready to go on. -/
def Along (number : Nat → Nat) (s t s' t' : Session) : Prop :=
  (∃ h, Abreast s t h s' t') ∧ Ready number s' t'

section
variable {number : Nat → Nat} {s t s' t' s'' t'' : Session} {d : Deed}

theorem Abreast.append {h h' : List Deed} (first : Abreast s t h s' t')
    (rest : Abreast s' t' h' s'' t'') : Abreast s t (h ++ h') s'' t'' := by
  induction rest with
  | start => simpa using first
  | next _ left right twin ih =>
    rw [← List.append_assoc]
    exact .next ih left right twin

theorem Ready.along (h : Ready number s t) : Along number s t s t := ⟨⟨[], .start h.twin⟩, h⟩

theorem Along.trans (h : Along number s t s' t') (h' : Along number s' t' s'' t'') :
    Along number s t s'' t'' := by
  obtain ⟨⟨_, first⟩, -⟩ := h
  obtain ⟨⟨_, rest⟩, ready⟩ := h'
  exact ⟨⟨_, first.append rest⟩, ready⟩

theorem Twin.freshTag (h : s.Twin t) (fresh : s.FreshTag d) : t.FreshTag d := by
  cases d with
  | arrived | returned =>
    intro w hw
    rw [h.tasks] at hw
    exact fresh w hw
  | _ => trivial

/-- A move that both make. -/
theorem Ready.move (h : Ready number s t) (left : Move s d s') (right : Move t d t')
    (twin : s'.Twin t') (fresh : s.FreshTag d)
    (numbered : s'.NumberedBy number) : Along number s t s' t' := by
  refine ⟨⟨_, .next (.start h.twin) left right twin⟩, twin, h.sound.move left, h.sound'.move right,
    h.tagged.move left fresh, h.tagged'.move right (h.twin.freshTag fresh), numbered⟩

/-- A move that is about no delivery. -/
theorem Ready.beside (h : Ready number s t) (left : s.Aside s') (right : t.Aside t')
    (twin : s'.Twin t') : Along number s t s' t' := by
  refine h.move (.aside left) (.aside right) twin trivial ?_
  unfold NumberedBy
  rw [left.tasks]
  exact h.numbered

end

section
variable {number : Nat → Nat} {s t : Session} {sub : Subscription} {stream : Nat}
  {message : Message} {tag : Option Nat}

theorem Tells.entered {s' : Session} {serial tag : Nat} {sights : List Sight}
    (h : s.Tells s' serial tag sights) (hne : sights ≠ []) :
    ∃ e ∈ s'.journal, e.delivery = some (serial, tag) := by
  have hsince : s.since s' ≠ [] := by
    intro hnil
    have hsights := h.sights
    rw [hnil] at hsights
    exact hne hsights.symm
  obtain ⟨e, he⟩ := List.exists_mem_of_ne_nil _ hsince
  exact ⟨e, List.mem_of_mem_drop he, (h.about e he).2⟩

/-- Every delivery that begins is entered into the journal. -/
theorem arrive_entered (s : Session) (sub : Subscription) (stream : Nat) (message : Message)
    (tag : Option Nat) : ∃ e ∈ (s.arrive sub stream message tag).journal,
      e.delivery = some (s.broker.handedOver + 1, (s.handed stream message tag).tag) := by
  cases hd : Envelope.decode sub.consumer.contract.payloadType message.body with
  | error e =>
    apply (s.arrive_error_tells sub stream message tag hd).entered
    intro hnil
    exact List.filter_eq_nil_iff.mp hnil (.resolved .poisoned) (by simp) rfl
  | ok e => exact (s.arrive_ok_tells sub stream message tag hd).entered (List.cons_ne_nil _ _)

/-- What begins has a tag that no delivery under way has. -/
theorem begins_fresh (sound : s.Sound) (numbered : s.NumberedBy number)
    (known : Entry.NumberedBy number (s.arrive sub stream message tag).journal) :
    (∀ w ∈ s.tasks, w.delivery.tag ≠ (s.handed stream message tag).tag) ∧
      (s.arrive sub stream message tag).NumberedBy number := by
  -- The journal tells of the new delivery, so its tag goes with its number, which is higher than
  -- that of any other.
  obtain ⟨e, he, habout⟩ := s.arrive_entered sub stream message tag
  have hnew : number (s.handed stream message tag).tag = s.broker.handedOver + 1 :=
    known e he _ _ habout
  constructor
  · intro w hw heq
    have hold := numbered w hw
    have hlt := sound.numbered w hw
    rw [heq, hnew] at hold
    omega
  · unfold NumberedBy
    rcases arrive_tasks s sub stream message tag with ⟨htasks, -⟩ | ⟨t', _, _, htasks, -, hser, -,
      hdel, -⟩
    · rw [htasks]
      exact numbered
    · rw [htasks]
      intro w hw
      rcases List.mem_append.mp hw with hw | hw
      · exact numbered w hw
      · rw [List.mem_singleton.mp hw, hdel, hser]
        exact hnew

/-- A message arrives in both. -/
theorem arrive_along (h : Ready number s t) (hsub : s.subscriptions[stream]? = some sub)
    (hopen : s.broker.isOpen stream = true)
    (known : Entry.NumberedBy number (s.arrive sub stream message tag).journal) :
    Along number s t (s.arrive sub stream message tag) (t.arrive sub stream message tag) := by
  obtain ⟨hfresh, hnumbered⟩ := begins_fresh h.sound h.numbered known
  have right := @Move.arrive t sub stream message tag (h.twin.subscriptions ▸ hsub)
    (h.twin.isOpen stream ▸ hopen)
  rw [h.twin.handed_eq] at right
  exact h.move (.arrive message tag hsub hopen) right (h.twin.arrive sub stream message tag) hfresh
    hnumbered

/-- A message that was returned arrives once more in both. -/
theorem again_along (h : Ready number s t) {p : Parcel} (hp : p ∈ s.broker.returned)
    (hsub : s.subscriptions[p.stream]? = some sub) (hopen : s.broker.isOpen p.stream = true)
    (known : Entry.NumberedBy number
      ((s.takeReturned p).arrive sub p.stream p.message none).journal) :
    Along number s t ((s.takeReturned p).arrive sub p.stream p.message none)
      ((t.takeReturned p).arrive sub p.stream p.message none) := by
  have htaken := h.twin.takeReturned p
  obtain ⟨hfresh, hnumbered⟩ := begins_fresh (h.sound.takeReturned p) h.numbered known
  have right := @Move.again t sub p (h.twin.returned ▸ hp) (h.twin.subscriptions ▸ hsub)
    (h.twin.isOpen p.stream ▸ hopen)
  rw [htaken.handed_eq] at right
  exact h.move (.again hp hsub hopen) right (htaken.arrive sub p.stream p.message none) hfresh
    hnumbered

end

section
variable {number : Nat → Nat} {s t : Session} {sub : Subscription} {w : Task}

theorem giveBack_along (h : Ready number s t) (hw : w ∈ s.tasks)
    (hsub : s.subscriptions[w.stream]? = some sub) (hstage : w.stage = .delayed) :
    Along number s t ((s.dequeue w).giveBack sub w) ((t.dequeue w).giveBack sub w) := by
  have left := Move.giveBack hw hsub hstage
  have right := @Move.giveBack t sub w (h.twin.tasks ▸ hw) (h.twin.subscriptions ▸ hsub) hstage
  refine h.move left right (h.twin.giveBack sub h.tagged h.tagged' hw) trivial ?_
  unfold NumberedBy
  rw [(giveBack_effect s sub w).tasks]
  exact fun w' hw' => h.numbered w' (dequeue_tasks_subset s w hw')

theorem conclude_along (h : Ready number s t) (hw : w ∈ s.tasks)
    (hsub : s.subscriptions[w.stream]? = some sub) {id : String} {answer : Answer}
    (hstage : w.stage = .handling id answer) :
    Along number s t (s.conclude sub w id answer).2 (t.conclude sub w id answer).2 := by
  obtain ⟨hsame, htwin⟩ := h.twin.conclude sub w id answer
  have right := Move.concludes (s := t) (h.twin.tasks ▸ hw) (h.twin.subscriptions ▸ hsub) hstage
    hsame
  refine h.move (.conclude hw hsub hstage) right htwin trivial fun w' hw' => ?_
  rcases mem_conclude_tasks s sub w hw' with hw' | rfl
  · exact h.numbered w' (dequeue_tasks_subset s w hw')
  · exact h.numbered w hw

theorem Twin.delayedTask_eq (h : s.Twin t) (sub : Subscription) (w : Task) :
    t.delayedTask sub w = s.delayedTask sub w := by
  unfold delayedTask waitEnd
  rw [h.now]

/-- A delivery that proceeds does so in the same way in both. -/
theorem proceed_along (h : Ready number s t) (hw : w ∈ s.tasks) :
    Along number s t ((s.dequeue w).proceed w) ((t.dequeue w).proceed w) := by
  obtain ⟨sub, hsub, -⟩ := h.sound.attended w hw
  have hsub' : t.subscriptions[w.stream]? = some sub := h.twin.subscriptions ▸ hsub
  cases hstage : w.stage with
  | delayed =>
    rw [proceed_delayed hsub hstage, proceed_delayed hsub' hstage]
    exact giveBack_along h hw hsub hstage
  | handling id answer =>
    have first := conclude_along h hw hsub hstage
    rw [proceed_handling hsub hstage, proceed_handling hsub' hstage,
      (h.twin.conclude sub w id answer).1, h.twin.delayedTask_eq]
    split
    · next hr =>
      have hknown : (s.conclude sub w id answer).2.subscriptions[w.stream]? = some sub :=
        (Move.conclude hw hsub hstage).known hsub
      exact first.trans (giveBack_along first.2 (delayedTask_mem hr.1) hknown rfl)
    · exact first

end

section
variable {number : Nat → Nat} {s t : Session} {sub : Subscription} {stream : Nat}
  {message : Message} {tag : Option Nat}

theorem Twin.prompt?_eq (h : s.Twin t) (sub : Subscription) (stream : Nat) (message : Message)
    (tag : Option Nat) : t.prompt? sub stream message tag = s.prompt? sub stream message tag := by
  unfold prompt?
  rw [h.handed_eq, ((h.handing stream message tag).accept sub stream _).1]

/-- A message that has arrived in both goes on from there. -/
theorem handOver_goes (sound : s.Sound) (sound' : t.Sound) (twin : s.Twin t)
    (hsub : s.subscriptions[stream]? = some sub)
    (h : Ready number (s.arrive sub stream message tag) (t.arrive sub stream message tag)) :
    Along number (s.arrive sub stream message tag) (t.arrive sub stream message tag)
      (s.handOver stream message tag).2 (t.handOver stream message tag).2 := by
  rw [handOver_eq sound hsub, handOver_eq sound' (twin.subscriptions ▸ hsub), twin.prompt?_eq]
  dsimp only
  cases hp : s.prompt? sub stream message tag with
  | none => exact h.along
  | some w => exact proceed_along h (prompt?_due hp).1

theorem handOver_grows (sound : s.Sound) (hsub : s.subscriptions[stream]? = some sub) :
    (s.arrive sub stream message tag).journal <+: (s.handOver stream message tag).2.journal := by
  rw [handOver_eq sound hsub]
  dsimp only
  split
  · exact List.prefix_rfl
  · next w _ => exact (proceed_tends ((s.arrive sub stream message tag).dequeue w) w).grows

/-- A message is handed to an open stream in both, under the same tag. -/
theorem handOver_along (h : Ready number s t) (hopen : s.broker.isOpen stream = true)
    (known : Entry.NumberedBy number (s.handOver stream message tag).2.journal) :
    (t.handOver stream message tag).1 = (s.handOver stream message tag).1 ∧
      Along number s t (s.handOver stream message tag).2 (t.handOver stream message tag).2 := by
  obtain ⟨sub, hsub⟩ := h.sound.known hopen
  have first := arrive_along h hsub hopen (known.of_prefix (handOver_grows h.sound hsub))
  refine ⟨?_, first.trans (handOver_goes h.sound h.sound' h.twin hsub first.2)⟩
  rw [handOver_eq h.sound hsub, handOver_eq h.sound' (h.twin.subscriptions ▸ hsub),
    h.twin.handed_eq]

theorem handBack_along (h : Ready number s t) {p : Parcel} (hp : p ∈ s.broker.returned)
    (known : Entry.NumberedBy number (s.handBack p).journal) :
    Along number s t (s.handBack p) (t.handBack p) := by
  have htaken := h.twin.takeReturned p
  unfold handBack at known ⊢
  dsimp only at known ⊢
  rw [htaken.isOpen]
  cases ho : (s.takeReturned p).broker.isOpen p.stream with
  | false =>
    have hclosed : t.broker.isOpen p.stream = false := h.twin.isOpen p.stream ▸ ho
    exact h.move (.lose hp ho) (.lose (h.twin.returned ▸ hp) hclosed) htaken trivial h.numbered
  | true =>
    rw [ho] at known
    obtain ⟨sub, hsub⟩ := h.sound.known ho
    have hs := h.sound.takeReturned p
    have first := again_along h hp hsub ho (known.of_prefix (handOver_grows hs hsub))
    exact first.trans (handOver_goes hs (h.sound'.takeReturned p) htaken hsub first.2)

theorem handBacks_along (ps : List Parcel) (h : Ready number s t)
    (hps : ps.Subperm s.broker.returned)
    (known : Entry.NumberedBy number (ps.foldl handBack s).journal) :
    Along number s t (ps.foldl handBack s) (ps.foldl handBack t) := by
  induction ps generalizing s t with
  | nil => exact h.along
  | cons p ps ih =>
    have hp := hps.subset List.mem_cons_self
    have hrest := hps.erase p
    rw [List.erase_cons_head] at hrest
    have first := handBack_along h hp
      (known.of_prefix (Tends.foldl handBack_tends ps (s.handBack p)).grows)
    have hgoes := (handBack_goesOn h.sound hp).2
    exact first.trans (ih first.2 (hrest.trans hgoes.sublist.subperm) known)

theorem redeliver_along (h : Ready number s t)
    (known : Entry.NumberedBy number s.redeliver.journal) :
    Along number s t s.redeliver t.redeliver := by
  unfold redeliver at known ⊢
  rw [h.twin.returned]
  exact handBacks_along _ h (Parcel.sortByTag_perm s.broker.returned).subperm known

theorem clock_along (h : Ready number s t) (now : Nat) :
    Along number s t { s with now } { t with now } :=
  h.beside (aside_clock now) (aside_clock now) (h.twin.clock now)

theorem Twin.nextDue?_eq (h : s.Twin t) : t.nextDue? = s.nextDue? := by
  unfold nextDue?
  rw [h.tasks]

/-- The same thing happens next in both. -/
theorem next?_along (h : Ready number s t) (horizon : Option Nat) :
    s.next? horizon = none ∧ t.next? horizon = none ∨
      ∃ s' t', s.next? horizon = some s' ∧ t.next? horizon = some t' ∧
        (Entry.NumberedBy number s'.journal → Along number s t s' t') := by
  have hfind : t.tasks.find? (·.due ≤ t.now) = s.tasks.find? (·.due ≤ s.now) := by
    rw [h.twin.tasks, h.twin.now]
  unfold next?
  rw [hfind, h.twin.returned, h.twin.nextDue?_eq]
  cases hdue : s.tasks.find? (·.due ≤ s.now) with
  | some w =>
    exact Or.inr ⟨_, _, rfl, rfl, fun _ => proceed_along h (List.mem_of_find?_eq_some hdue)⟩
  | none =>
    dsimp only
    cases hr : s.broker.returned.isEmpty with
    | false => exact Or.inr ⟨_, _, rfl, rfl, redeliver_along h⟩
    | true =>
      cases s.nextDue? with
      | none => exact Or.inl ⟨rfl, rfl⟩
      | some due =>
        dsimp only
        by_cases hh : horizon.all (due ≤ ·) = true
        · rw [if_pos hh, if_pos hh]
          exact Or.inr ⟨_, _, rfl, rfl, fun _ => clock_along h due⟩
        · rw [if_neg hh, if_neg hh]
          exact Or.inl ⟨rfl, rfl⟩

theorem runFor_along (horizon : Option Nat) (fuel : Nat) (h : Ready number s t)
    (known : Entry.NumberedBy number (s.runFor horizon fuel).journal) :
    Along number s t (s.runFor horizon fuel) (t.runFor horizon fuel) := by
  induction fuel generalizing s t with
  | zero => exact h.along
  | succ fuel ih =>
    unfold runFor at known ⊢
    rcases next?_along h horizon with ⟨hs, ht⟩ | ⟨s', t', hs, ht, goes⟩
    · rw [hs, ht]
      exact h.along
    · rw [hs] at known ⊢
      rw [ht]
      have first := goes (known.of_prefix (runFor_tends s' horizon fuel).grows)
      exact first.trans (ih first.2 known)

theorem Twin.runBound_eq (h : s.Twin t) : t.runBound = s.runBound := by
  unfold runBound maxRetry
  rw [h.subscriptions, h.tasks, h.returned]

theorem run_along (horizon : Option Nat) (h : Ready number s t)
    (known : Entry.NumberedBy number (s.run horizon).journal) :
    Along number s t (s.run horizon) (t.run horizon) := by
  unfold run
  rw [h.twin.runBound_eq]
  exact runFor_along horizon _ h known

theorem advance_along (ms : Nat) (h : Ready number s t)
    (known : Entry.NumberedBy number (s.advance ms).journal) :
    Along number s t (s.advance ms) (t.advance ms) := by
  have first := run_along (some (s.now + ms)) h known
  unfold advance
  rw [h.twin.now]
  exact first.trans (clock_along first.2 _)

end
end Session
end Courier
