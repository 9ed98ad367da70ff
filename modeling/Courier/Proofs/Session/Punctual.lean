import Courier.Proofs.Account.Journal
import Courier.Proofs.Session.Schedule

/-! The clock is punctual: it lets each delivery go on when it is due, not before and not after
that, whatever other deliveries wait for. -/
namespace Courier.Session

/-- Deliveries go on when they are due. -/
def Punctual (s : Session) : Deed → Prop
  | .concluded _ n d _ _ _ | .gaveBack _ n d =>
    ∃ t ∈ s.tasks, t.stream = n ∧ t.delivery = d ∧ t.due = s.now
  | _ => True

/-- No delivery is late. -/
def Timely (s : Session) : Prop := ∀ t ∈ s.tasks, s.now ≤ t.due

section
variable {allowed : Session → Deed → Prop} {s s' : Session} {d : Deed} {h : List Record}

theorem Ripe.punctual (ripe : s.Ripe d) (timely : s.Timely) : s.Punctual d := by
  cases d with
  | concluded | gaveBack =>
    obtain ⟨t, ht, hn, hd, hdue⟩ := ripe
    exact ⟨t, ht, hn, hd, Nat.le_antisymm hdue (timely t ht)⟩
  | _ => trivial

theorem Timely.same (timely : s.Timely) (tasks : s'.tasks = s.tasks) (now : s'.now = s.now) :
    s'.Timely := by
  unfold Timely
  rw [tasks, now]
  exact timely

theorem arrive_timely (timely : s.Timely) (sub : Subscription) (stream : Nat) (message : Message)
    (tag : Option Nat) : (s.arrive sub stream message tag).Timely := by
  cases h : Envelope.decode sub.consumer.contract.payloadType message.body with
  | error e =>
    exact timely.same (arrive_error s sub stream message tag h).tasks
      (arrive_error_tells s sub stream message tag h).now
  | ok e =>
    unfold Timely
    rw [(arrive_ok s sub stream message tag h).tasks,
      (arrive_ok_tells s sub stream message tag h).now]
    intro t ht
    rcases List.mem_append.mp ht with ht | ht
    · exact timely t ht
    · rw [List.mem_singleton.mp ht]
      exact Nat.le_add_right _ _

/-- Nothing but the passing of time makes a delivery late. -/
theorem Timely.move (timely : s.Timely) (m : Move s d s') (hd : d ≠ .aside) : s'.Timely := by
  cases m with
  | arrive => exact arrive_timely timely _ _ _ _
  | @again sub p =>
    have taken : (s.takeReturned p).Timely := timely
    exact arrive_timely taken _ _ _ _
  | @conclude sub t id answer ht =>
    unfold Timely
    rw [(conclude_tells s sub t id answer).now]
    intro t' ht'
    rcases mem_conclude_tasks s sub t ht' with ht' | rfl
    · exact timely t' (dequeue_tasks_subset s t ht')
    · exact Nat.le_add_right _ _
  | @giveBack sub t =>
    unfold Timely
    rw [(giveBack_tells s sub t).now, (giveBack_effect s sub t).tasks]
    exact fun t' ht' => timely t' (dequeue_tasks_subset s t ht')
  | lose => exact timely
  | close n =>
    rcases s.close_eq n with h | ⟨_, h⟩ <;> rw [h] <;> exact timely
  | count _ _ call => cases call <;> exact timely
  | aside => exact absurd rfl hd

/-- Deliveries that do not go on before they are due go on just then, as long as no time passes. -/
theorem Run.punctual (run : Run (Due allowed) s h s') (timely : s.Timely)
    (never : ∀ s, ¬ allowed s .aside) :
    Run (fun s d => allowed s d ∧ s.Punctual d) s h s' ∧ s'.Timely := by
  induction run with
  | start => exact ⟨.start, timely⟩
  | next _ m ok ih =>
    obtain ⟨run, timely⟩ := ih
    refine ⟨run.next m ⟨ok.1, ok.2.punctual timely⟩, timely.move m ?_⟩
    rintro rfl
    exact never _ ok.1

/-- Time passes until the next delivery is due, and no further. -/
theorem timely_at_nextDue {due : Nat} (h : s.nextDue? = some due) :
    ({ s with now := due } : Session).Timely := by
  intro t ht
  exact (List.min?_eq_some_iff.mp h).2 _ (List.mem_map_of_mem ht)

end
end Courier.Session
