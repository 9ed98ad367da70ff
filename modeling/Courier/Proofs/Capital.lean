import Courier.Proofs.Segment

/-! Capital letters that lower-casing leaves as they are, and what they do to a name: behind its
first character each of them gets an underscore in front. Any other name is just lower-cased. -/
namespace Courier
namespace Text

/-- A capital letter that has no lower-case form, such as the mathematical capitals. -/
def LoneCapital (c : Char) : Prop := isUpper c = true ∧ lowerChar c = [c]

instance (c : Char) : Decidable (LoneCapital c) := inferInstanceAs (Decidable (_ ∧ _))

/-- No letter that a run leads to is a capital. -/
theorem lowerRuns_miss : ∀ r ∈ lowerRuns, ∀ u ∈ upperRanges, r.misses u = true := by
  apply forall_pairs
  decide +kernel

theorem LoneCapital.not_ascii {c : Char} (h : LoneCapital c) : 0x80 ≤ c.toNat := by
  by_contra hascii
  have hnone : ∀ n < 0x80, ¬ LoneCapital (Char.ofNat n) := by decide +kernel
  apply hnone c.toNat (by omega)
  rwa [Char.ofNat_toNat]

section
variable {c d : Char} {before cs : List Char}

/-- Lower-casing makes no capital letter: one in the result is the character itself. -/
theorem eq_of_upper_mem_lowerChar (hd : d ∈ lowerChar c) (hupper : isUpper d = true) : c = d := by
  rcases mem_lowerChar_cases hd with ⟨rfl, -⟩ | (rfl | rfl) | ⟨r, hr, hcontains, himage⟩
  · rfl
  · exact absurd hupper (by decide +kernel)
  · exact absurd hupper (by decide +kernel)
  · obtain ⟨u, hu, hin⟩ := List.any_eq_true.mp hupper
    rw [LowerRun.misses_image (lowerRuns_miss r hr u hu) hcontains himage] at hin
    cases hin

theorem LoneCapital.mem_lowerFrom (h : LoneCapital c) (hc : c ∈ cs) : c ∈ lowerFrom before cs := by
  induction cs generalizing before with
  | nil => cases hc
  | cons c' cs ih =>
    rcases List.mem_cons.mp hc with rfl | hc
    · rw [lowerFrom_cons_of_self h.2]
      exact List.mem_cons_self
    · rw [lowerFrom, List.mem_append]
      exact Or.inr (ih hc)

/-- The capitals of a lower-cased text are those of the text that have no lower-case form. -/
theorem upper_mem_lowerFrom_iff :
    d ∈ lowerFrom before cs ∧ isUpper d = true ↔ d ∈ cs ∧ LoneCapital d := by
  constructor
  · rintro ⟨hd, hupper⟩
    rcases mem_lowerFrom hd with ⟨c, hc, hform⟩ | rfl
    · obtain rfl := eq_of_upper_mem_lowerChar hform hupper
      exact ⟨hc, hupper, lowerChar_of_mem hform⟩
    · exact absurd hupper (by decide +kernel)
  · rintro ⟨hd, hlone⟩
    exact ⟨hlone.mem_lowerFrom hd, hlone.1⟩

theorem no_upper_lowerFrom_iff :
    (∀ d ∈ lowerFrom before cs, isUpper d = false) ↔ ∀ c ∈ cs, ¬ LoneCapital c := by
  constructor
  · intro h c hc hlone
    obtain ⟨hmem, hupper⟩ := upper_mem_lowerFrom_iff.mpr ⟨hc, hlone⟩
    rw [h c hmem] at hupper
    cases hupper
  · intro h d hd
    rw [Bool.eq_false_iff]
    intro hupper
    obtain ⟨hc, hlone⟩ := upper_mem_lowerFrom_iff.mp ⟨hd, hupper⟩
    exact h d hc hlone

/-- A lower-cased text begins with the form of its first character; what more there is of that form
is no capital. -/
theorem lowerFrom_cons (before : List Char) (c : Char) (cs : List Char) :
    ∃ d marks, (∀ e ∈ marks, isUpper e = false) ∧
      lowerFrom before (c :: cs) = d :: (marks ++ lowerFrom (c :: before) cs) := by
  rw [lowerFrom]
  split
  · exact ⟨_, [], by simp, rfl⟩
  · rcases lowerChar_cases c with hc | hc | ⟨r, -, -, hc⟩ <;> rw [hc]
    · exact ⟨c, [], by simp, rfl⟩
    · refine ⟨'i', ['\u0307'], ?_, rfl⟩
      rw [List.forall_mem_singleton]
      decide +kernel
    · exact ⟨_, [], by simp, rfl⟩

/-- Behind the first character of a lower-cased text there is a capital just in case there is one
without a lower-case form behind the first character of the text. -/
theorem no_upper_tail_iff :
    (∀ d ∈ (lowerChars cs).tail, isUpper d = false) ↔ ∀ c ∈ cs.tail, ¬ LoneCapital c := by
  cases cs with
  | nil => simp [lowerChars, lowerFrom]
  | cons c cs =>
    obtain ⟨d, marks, hmarks, hlower⟩ := lowerFrom_cons [] c cs
    rw [lowerChars, hlower, List.tail_cons, List.tail_cons, List.forall_mem_append,
      no_upper_lowerFrom_iff]
    exact and_iff_right hmarks

end
end Text

section
variable {c : Char} {cs cs' : List Char}

theorem length_splitCapitals_ge (cs : List Char) :
    cs.length + cs.countP Text.isUpper ≤ (splitCapitals cs).length := by
  unfold splitCapitals
  induction cs with
  | nil => exact Nat.le_refl 0
  | cons c cs ih =>
    rw [List.flatMap_cons, List.length_append, List.length_cons]
    by_cases hupper : Text.isUpper c = true
    · have hform : 0 < (Text.lowerChar c).length :=
        List.length_pos_iff.mpr (Text.lowerChar_ne_nil c)
      rw [List.countP_cons_of_pos hupper, if_pos hupper, List.length_cons]
      omega
    · rw [List.countP_cons_of_neg hupper, if_neg hupper, List.length_singleton]
      omega

theorem splitCapitals_eq_self_iff :
    splitCapitals cs = cs ↔ ∀ c ∈ cs, Text.isUpper c = false := by
  constructor
  · intro h
    have hlength := length_splitCapitals_ge cs
    rw [h] at hlength
    have hnone : cs.countP Text.isUpper = 0 := by omega
    simpa [List.countP_eq_zero] using hnone
  · exact splitCapitals_of_not_upper

/-- The underscore of a capital at the start is the one that is dropped again. -/
theorem dropUnderscore_splitCapitals_cons (lower : Text.lowerChar c = [c]) :
    dropUnderscore (splitCapitals (c :: cs)) = dropUnderscore (c :: splitCapitals cs) := by
  unfold splitCapitals
  rw [List.flatMap_cons]
  by_cases hupper : Text.isUpper c = true
  · have hne : c ≠ '_' := by
      rintro rfl
      exact absurd hupper (by decide +kernel)
    rw [if_pos hupper, lower, dropUnderscore_of_ne hne]
    rfl
  · rw [if_neg hupper]
    rfl

theorem dropUnderscore_cons_inj :
    dropUnderscore (c :: cs) = dropUnderscore (c :: cs') ↔ cs = cs' := by
  by_cases hc : c = '_'
  · rw [hc]
    rfl
  · rw [dropUnderscore_of_ne hc, dropUnderscore_of_ne hc, List.cons.injEq]
    exact and_iff_right rfl

/-- Splitting does nothing to a lower-cased name just in case no capital is left in it behind the
first character. -/
theorem dropUnderscore_splitCapitals_iff :
    dropUnderscore (splitCapitals (Text.lowerChars cs)) = dropUnderscore (Text.lowerChars cs) ↔
      ∀ c ∈ cs.tail, ¬ Text.LoneCapital c := by
  rw [← Text.no_upper_tail_iff]
  cases hlower : Text.lowerChars cs with
  | nil => simp [splitCapitals]
  | cons d ds =>
    have hmem : d ∈ Text.lowerChars cs := by
      rw [hlower]
      exact List.mem_cons_self
    have hlower' := Text.lowerChar_of_mem_lowerChars hmem
    rw [dropUnderscore_splitCapitals_cons hlower', dropUnderscore_cons_inj,
      splitCapitals_eq_self_iff, List.tail_cons]

end

/-- A name in ASCII is just lower-cased, less one underscore that it may begin with. -/
theorem segment_of_ascii {raw : String} (ascii : ∀ c ∈ raw.toList, c.toNat < 0x80) :
    segment raw = String.ofList (dropUnderscore (Text.lower raw).toList) := by
  have hnone : ∀ c ∈ raw.toList.tail, ¬ Text.LoneCapital c := by
    intro c hc hlone
    have hcode := ascii c (List.mem_of_mem_tail hc)
    exact absurd hlone.not_ascii (by omega)
  unfold segment Text.lower
  rw [String.toList_ofList, dropUnderscore_splitCapitals_iff.mpr hnone]

/-- A name goes into queue names in lower case, less one underscore that it may begin with, and
without a further underscore, just in case all its capitals behind the first character have a
lower-case form. -/
theorem segment_eq_lower_iff (raw : String) :
    segment raw = String.ofList (dropUnderscore (Text.lower raw).toList) ↔
      ∀ c ∈ raw.toList.tail, ¬ Text.LoneCapital c := by
  unfold segment Text.lower
  rw [String.toList_ofList, String.ofList_inj, dropUnderscore_splitCapitals_iff]

/-- A mathematical capital stays as it is and gets an underscore in front. -/
theorem mathematical_capital_split :
    segment "a𝐀" = "a_𝐀" ∧
      segment "a𝐀" ≠ String.ofList (dropUnderscore (Text.lower "a𝐀").toList) := by
  decide +kernel

end Courier
