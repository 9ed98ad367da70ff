import Courier.Proofs.Script

/-! Which requests are going to fail: the plan of a broker tells beforehand, as long as no two of
them are of one kind. -/
namespace Courier.Broker

/-- The failure that is planned for the next request of this kind. -/
def fault? (b : Broker) (r : Request) : Option BrokerError := (b.faults.ahead r.rpc).head?.join

/-- The requests of a script are made up to the first for which a failure is planned; what this
failure means is the result. -/
inductive Stops {ε : Type} (b : Broker) :
    Script ε → List (Request × Bool) → Except ε Unit → Prop
  | done : Stops b [] [] (.ok ())
  | granted {r : Request} {lift : BrokerError → ε} {script : Script ε}
      {made : List (Request × Bool)} {result : Except ε Unit} (planned : b.fault? r = none)
      (rest : Stops b script made result) :
      Stops b ((r, lift) :: script) ((r, true) :: made) result
  | refused {r : Request} {lift : BrokerError → ε} {script : Script ε} {error : BrokerError}
      (planned : b.fault? r = some error) :
      Stops b ((r, lift) :: script) [(r, false)] (.error (lift error))

section
variable {ε : Type} {b : Broker}

theorem call_of_fault?_some {r : Request} {error : BrokerError} (h : b.fault? r = some error) :
    b.call r = (.error error, b.spend r.rpc) := by
  have hfirst : (b.faults.take r.rpc).1 = some error := (Plan.take_fst _ _).trans h
  rw [call_eq, hfirst]

theorem call_of_fault?_none {r : Request} (h : b.fault? r = none) :
    b.call r = (.ok (), (b.spend r.rpc).after r) := by
  have hfirst : (b.faults.take r.rpc).1 = none := (Plan.take_fst _ _).trans h
  rw [call_eq, hfirst]

/-- A request has no part in what is planned for requests of other kinds. -/
theorem fault?_call {r r' : Request} (h : r.rpc ≠ r'.rpc) :
    (b.call r).2.fault? r' = b.fault? r' := by
  unfold fault?
  rw [b.call_ahead h]

/-- Only the plan for the requests of the script matters. -/
theorem Stops.congr {b' : Broker} {script : Script ε} {made : List (Request × Bool)}
    {result : Except ε Unit} (h : b'.Stops script made result)
    (same : ∀ step ∈ script, b'.fault? step.1 = b.fault? step.1) : b.Stops script made result := by
  induction h with
  | done => exact .done
  | granted planned _ ih =>
    rw [same _ List.mem_cons_self] at planned
    exact .granted planned (ih fun step hstep => same step (List.mem_cons_of_mem _ hstep))
  | refused planned =>
    rw [same _ List.mem_cons_self] at planned
    exact .refused planned

/-- A script that has one request of each kind at most is played as planned. -/
theorem play_stops (b : Broker) (script : Script ε)
    (distinct : (script.map fun step => step.1.rpc).Nodup) :
    b.Stops script (b.trace script) (b.play script).1 := by
  induction script generalizing b with
  | nil => exact .done
  | cons step script ih =>
    obtain ⟨r, lift⟩ := step
    rw [List.map_cons, List.nodup_cons] at distinct
    obtain ⟨hnew, hrest⟩ := distinct
    have hsame : ∀ step ∈ script, (b.call r).2.fault? step.1 = b.fault? step.1 := by
      intro step hstep
      apply fault?_call
      intro he
      apply hnew
      rw [he]
      exact List.mem_map_of_mem hstep
    have hgo := (ih (b.call r).2 hrest).congr hsame
    rw [trace, play]
    cases hr : b.fault? r with
    | some error =>
      rw [call_of_fault?_some hr]
      exact .refused hr
    | none =>
      rw [call_of_fault?_none hr] at hgo ⊢
      exact .granted hr hgo

/-- The requests that are made are the first ones of the script. -/
theorem Stops.made_first {script : Script ε} {made : List (Request × Bool)}
    {result : Except ε Unit} (h : b.Stops script made result) :
    made.map Prod.fst <+: script.map Prod.fst := by
  induction h with
  | done => exact List.prefix_rfl
  | granted _ _ ih => exact (List.prefix_cons_inj _).mpr ih
  | refused => exact ⟨_, rfl⟩

end
end Courier.Broker
