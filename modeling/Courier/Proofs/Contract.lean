import Courier.Contract

/-! Which contracts are accepted, and the names of their queues. -/
namespace Courier.Contract
variable (c : Contract) (env : String)

/-- Some of the dots that join the parts of a name. -/
theorem dot_mem_address : '.' ∈ (c.address env).toList := by
  unfold address queueAddress
  rw [String.intercalate_cons_cons]
  simp

theorem address_not_blank : Text.allBlank (c.address env) = false := by
  refine List.all_eq_false.mpr ⟨'.', c.dot_mem_address env, ?_⟩
  decide

theorem validate_eq_ok : c.validate = .ok () ↔
    Text.allBlank c.moduleName = false ∧ Text.allBlank c.queueName = false ∧
      BusinessDate.accepts (Text.trim c.businessDate) = true ∧ c.exchange.check = .ok () := by
  unfold validate
  cases Text.allBlank c.moduleName with
  | true => simp
  | false =>
    cases Text.allBlank c.queueName with
    | true => simp
    | false => cases BusinessDate.accepts (Text.trim c.businessDate) <;> simp

theorem address_ne_empty : c.address env ≠ "" := by
  intro h
  have hdot := c.dot_mem_address env
  rw [h] at hdot
  cases hdot

end Courier.Contract
