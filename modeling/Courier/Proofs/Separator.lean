/-! Texts joined by a character: a part that does not contain the character can be read off. -/
namespace Courier
variable {α : Type} {sep : α} {as bs xs ys : List α}

/-- What stands before the first separator can be read off. -/
theorem append_sep_inj (has : sep ∉ as) (hbs : sep ∉ bs) :
    as ++ sep :: xs = bs ++ sep :: ys ↔ as = bs ∧ xs = ys := by
  constructor
  · intro h
    induction as generalizing bs with
    | nil =>
      cases bs with
      | nil => exact ⟨rfl, (List.cons.inj h).2⟩
      | cons c bs =>
        have hc : sep = c := (List.cons.inj h).1
        simp [← hc] at hbs
    | cons c as ih =>
      cases bs with
      | nil =>
        have hc : c = sep := (List.cons.inj h).1
        simp [hc] at has
      | cons d bs =>
        obtain ⟨hcd, htail⟩ := List.cons.inj h
        simp only [List.mem_cons, not_or] at has hbs
        obtain ⟨hab, hxy⟩ := ih has.2 hbs.2 htail
        exact ⟨by rw [hcd, hab], hxy⟩
  · rintro ⟨rfl, rfl⟩
    rfl

/-- What stands behind the last separator can be read off, too. -/
theorem sep_append_inj (has : sep ∉ as) (hbs : sep ∉ bs) :
    xs ++ sep :: as = ys ++ sep :: bs ↔ xs = ys ∧ as = bs := by
  have hreverse : as.reverse ++ sep :: xs.reverse = bs.reverse ++ sep :: ys.reverse ↔
      as.reverse = bs.reverse ∧ xs.reverse = ys.reverse :=
    append_sep_inj (mt List.mem_reverse.mp has) (mt List.mem_reverse.mp hbs)
  rw [List.reverse_inj, List.reverse_inj, and_comm] at hreverse
  rw [← hreverse, ← List.reverse_inj]
  simp

end Courier
