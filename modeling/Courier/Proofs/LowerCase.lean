import Courier.Text.Blank
import Courier.Text.LowerCase
import Courier.Text.UpperCase

/-! Lower-casing ends at once: what it gives is in lower case. Blanks, dots and underscores neither
come nor go. -/
namespace Courier.Text

/-- No letter that a run leads to is in a range: they lie beside each other, or one has only even
code points and the other only odd ones. -/
def LowerRun.misses (r : LowerRun) (u : CodeRange) : Bool :=
  Nat.blt (r.image + (r.last - r.first)) u.first || Nat.blt u.last r.image ||
    ((u.step == 2 || u.first == u.last) && (r.step == 2 || r.first == r.last) &&
      (r.image + u.first) % 2 == 1)

/-- No letter that a run leads to is in another run. -/
def LowerRun.clearOf (r r' : LowerRun) : Bool :=
  Nat.blt (r.image + (r.last - r.first)) r'.first || Nat.blt r'.last r.image ||
    (r'.step == 2 && (r.step == 2 || r.first == r.last) && (r.image + r'.first) % 2 == 1)

/-- A check of all pairs from two tables, made as one Boolean. The kernel is slower to decide it
pair by pair. -/
theorem forall_pairs {α β : Type} {as : List α} {bs : List β} {p : α → β → Bool}
    (h : (as.all fun a => bs.all (p a)) = true) : ∀ a ∈ as, ∀ b ∈ bs, p a b = true := by
  intro a ha
  exact List.all_eq_true.mp (List.all_eq_true.mp h a ha)

theorem lowerRuns_clear : ∀ r ∈ lowerRuns, ∀ r' ∈ lowerRuns, r.clearOf r' = true := by
  apply forall_pairs
  decide +kernel

/-- The letters that a run leads to are characters, and are not the capital I with a dot. -/
theorem lowerRuns_images : ∀ r ∈ lowerRuns,
    (r.image + (r.last - r.first) < 0xD800 ∨
      0xDFFF < r.image ∧ r.image + (r.last - r.first) < 0x110000) ∧
    (r.image + (r.last - r.first) < 0x130 ∨ 0x130 < r.image) := by
  decide +kernel

section
variable {r r' : LowerRun} {c d : Char}

theorem LowerRun.contains_iff : r.contains c = true ↔
    r.first ≤ c.toNat ∧ c.toNat ≤ r.last ∧ (c.toNat - r.first) % r.step = 0 := by
  simp [LowerRun.contains, and_assoc]

theorem LowerRun.toNat_image (hr : r ∈ lowerRuns) (hc : r.contains c = true) :
    (Char.ofNat (r.image + (c.toNat - r.first))).toNat = r.image + (c.toNat - r.first) := by
  obtain ⟨hvalid, -⟩ := lowerRuns_images r hr
  obtain ⟨hfirst, hlast, -⟩ := LowerRun.contains_iff.mp hc
  have hchar : (r.image + (c.toNat - r.first)).isValidChar := by
    unfold Nat.isValidChar
    omega
  rw [Char.ofNat, dif_pos hchar]
  rfl

theorem CodeRange.contains_iff {u : CodeRange} : u.contains c = true ↔
    u.first ≤ c.toNat ∧ c.toNat ≤ u.last ∧ (c.toNat - u.first) % u.step = 0 := by
  simp [CodeRange.contains, and_assoc]

theorem LowerRun.misses_image {u : CodeRange} (hmiss : r.misses u = true)
    (hc : r.contains c = true) (hd : d.toNat = r.image + (c.toNat - r.first)) :
    u.contains d = false := by
  obtain ⟨hfirst, hlast, hstep⟩ := LowerRun.contains_iff.mp hc
  simp only [LowerRun.misses, Bool.or_eq_true, Bool.and_eq_true, Nat.blt_eq, beq_iff_eq] at hmiss
  rw [Bool.eq_false_iff]
  intro h
  obtain ⟨hfirst', hlast', hstep'⟩ := CodeRange.contains_iff.mp h
  rcases hmiss with (hbelow | habove) | ⟨⟨hsteps', hsteps⟩, hodd⟩
  · omega
  · omega
  · have heven : (c.toNat - r.first) % 2 = 0 := by
      rcases hsteps with hr | hr
      · rwa [hr] at hstep
      · omega
    have heven' : (d.toNat - u.first) % 2 = 0 := by
      rcases hsteps' with hu | hu
      · rwa [hu] at hstep'
      · omega
    omega

theorem LowerRun.clearOf_image (hclear : r.clearOf r' = true) (hc : r.contains c = true)
    (hd : d.toNat = r.image + (c.toNat - r.first)) : r'.contains d = false := by
  have hmiss : r.misses ⟨r'.first, r'.last, r'.step⟩ = true := by
    simp only [LowerRun.clearOf, LowerRun.misses, Bool.or_eq_true, Bool.and_eq_true] at hclear ⊢
    exact hclear.imp_right fun ⟨⟨htwo, hsteps⟩, hodd⟩ => ⟨⟨Or.inl htwo, hsteps⟩, hodd⟩
  exact LowerRun.misses_image hmiss hc hd

theorem lowerChar_eq_self (hdotted : d ≠ '\u0130') (h : ∀ r ∈ lowerRuns, r.contains d = false) :
    lowerChar d = [d] := by
  have hnone : lowerRuns.find? (·.contains d) = none := by
    rw [List.find?_eq_none]
    intro r hr
    simp [h r hr]
  unfold lowerChar
  rw [if_neg hdotted, hnone]

/-- A character is in lower case, or is the capital I with a dot, or is in a run. -/
theorem lowerChar_cases (c : Char) :
    lowerChar c = [c] ∨ lowerChar c = ['i', '\u0307'] ∨ ∃ r ∈ lowerRuns, r.contains c = true ∧
      lowerChar c = [Char.ofNat (r.image + (c.toNat - r.first))] := by
  unfold lowerChar
  split
  · exact Or.inr (Or.inl rfl)
  · split
    · next r hr =>
      right
      right
      exact ⟨r, List.mem_of_find?_eq_some hr, by simpa using List.find?_some hr, rfl⟩
    · exact Or.inl rfl

/-- Where a character of a lower-case form comes from. -/
theorem mem_lowerChar_cases (h : d ∈ lowerChar c) :
    (d = c ∧ lowerChar c = [c]) ∨ (d = 'i' ∨ d = '\u0307') ∨
      ∃ r ∈ lowerRuns, r.contains c = true ∧ d.toNat = r.image + (c.toNat - r.first) := by
  rcases lowerChar_cases c with hc | hc | ⟨r, hr, hcontains, hc⟩
  · rw [hc, List.mem_singleton] at h
    exact Or.inl ⟨h, hc⟩
  · rw [hc] at h
    simp only [List.mem_cons, List.not_mem_nil, or_false] at h
    exact Or.inr (Or.inl h)
  · rw [hc, List.mem_singleton] at h
    right
    right
    refine ⟨r, hr, hcontains, ?_⟩
    rw [h]
    exact LowerRun.toNat_image hr hcontains

/-- What lower-casing gives is in lower case. -/
theorem lowerChar_of_mem (h : d ∈ lowerChar c) : lowerChar d = [d] := by
  rcases mem_lowerChar_cases h with ⟨rfl, hd⟩ | (rfl | rfl) | ⟨r, hr, hcontains, hd⟩
  · exact hd
  · decide +kernel
  · decide +kernel
  · obtain ⟨hfirst, hlast, -⟩ := LowerRun.contains_iff.mp hcontains
    obtain ⟨-, hdotted⟩ := lowerRuns_images r hr
    apply lowerChar_eq_self
    · rintro rfl
      have hcode : ('\u0130').toNat = 0x130 := rfl
      omega
    · intro r' hr'
      exact LowerRun.clearOf_image (lowerRuns_clear r hr r' hr') hcontains hd

end

/-- Blanks, dots and underscores, which lower-casing neither makes nor changes. -/
def Caseless (c : Char) : Prop := isBlank c = true ∨ c = '.' ∨ c = '_'

instance (c : Char) : Decidable (Caseless c) := inferInstanceAs (Decidable (_ ∨ _))

/-- The code points of caseless characters. -/
def caselessRanges : List CodeRange := ⟨0x2E, 0x2E, 1⟩ :: ⟨0x5F, 0x5F, 1⟩ :: blankRanges

/-- Neither the letters of a run nor those it leads to are in a range. -/
def LowerRun.avoids (r : LowerRun) (b : CodeRange) : Bool :=
  (Nat.blt r.last b.first || Nat.blt b.last r.first) &&
    (Nat.blt (r.image + (r.last - r.first)) b.first || Nat.blt b.last r.image)

theorem lowerRuns_avoid : ∀ r ∈ lowerRuns, ∀ b ∈ caselessRanges, r.avoids b = true := by
  apply forall_pairs
  decide +kernel

theorem upperRanges_avoid :
    ∀ u ∈ upperRanges, ∀ b ∈ caselessRanges, u.last < b.first ∨ b.last < u.first := by
  decide +kernel

section
variable {c d : Char}

theorem Caseless.range (h : Caseless c) :
    ∃ b ∈ caselessRanges, b.first ≤ c.toNat ∧ c.toNat ≤ b.last := by
  rcases h with h | rfl | rfl
  · obtain ⟨b, hb, hcontains⟩ := List.any_eq_true.mp h
    obtain ⟨hfirst, hlast, -⟩ := CodeRange.contains_iff.mp hcontains
    have hmem : b ∈ caselessRanges := List.mem_cons_of_mem _ (List.mem_cons_of_mem _ hb)
    exact ⟨b, hmem, hfirst, hlast⟩
  · exact ⟨⟨0x2E, 0x2E, 1⟩, by simp [caselessRanges], by decide, by decide⟩
  · exact ⟨⟨0x5F, 0x5F, 1⟩, by simp [caselessRanges], by decide, by decide⟩

theorem Caseless.not_in_run (h : Caseless c) {r : LowerRun} (hr : r ∈ lowerRuns) :
    r.contains c = false ∧ (c.toNat < r.image ∨ r.image + (r.last - r.first) < c.toNat) := by
  obtain ⟨b, hb, hfirst, hlast⟩ := h.range
  have havoid := lowerRuns_avoid r hr b hb
  simp only [LowerRun.avoids, Bool.and_eq_true, Bool.or_eq_true, Nat.blt_eq] at havoid
  constructor
  · rw [Bool.eq_false_iff]
    intro hcontains
    obtain ⟨hlow, hhigh, -⟩ := LowerRun.contains_iff.mp hcontains
    omega
  · omega

theorem Caseless.isUpper (h : Caseless c) : isUpper c = false := by
  obtain ⟨b, hb, hfirst, hlast⟩ := h.range
  unfold Text.isUpper inRanges
  rw [List.any_eq_false]
  intro u hu hcontains
  obtain ⟨hlow, hhigh, -⟩ := CodeRange.contains_iff.mp hcontains
  rcases upperRanges_avoid u hu b hb with hbelow | habove
  · omega
  · omega

theorem Caseless.lowerChar (h : Caseless c) : lowerChar c = [c] := by
  apply lowerChar_eq_self
  · rintro rfl
    exact absurd h (by decide)
  · intro r hr
    exact (h.not_in_run hr).1

/-- No other character has a caseless one in its lower-case form. -/
theorem Caseless.eq_of_mem_lowerChar (h : Caseless d) (hd : d ∈ Text.lowerChar c) : c = d := by
  rcases mem_lowerChar_cases hd with ⟨rfl, -⟩ | (rfl | rfl) | ⟨r, hr, hcontains, himage⟩
  · rfl
  · exact absurd h (by decide)
  · exact absurd h (by decide)
  · obtain ⟨hlow, hhigh, -⟩ := LowerRun.contains_iff.mp hcontains
    obtain ⟨-, hbelow | habove⟩ := h.not_in_run hr
    · omega
    · omega

theorem dot_mem_lowerChar (h : '.' ∈ lowerChar c) : c = '.' :=
  Caseless.eq_of_mem_lowerChar (Or.inr (Or.inl rfl)) h

theorem lowerChar_ne_nil (c : Char) : lowerChar c ≠ [] := by
  rcases lowerChar_cases c with hc | hc | ⟨r, -, -, hc⟩ <;> rw [hc] <;> simp

end

section
variable {before cs : List Char}

/-- A sigma has a lower-case form of its own. -/
theorem lowerChar_sigma : lowerChar '\u03A3' = ['\u03C3'] := by decide +kernel

/-- A character that is its own lower-case form is kept wherever it stands. -/
theorem lowerFrom_cons_of_self {c : Char} (hc : lowerChar c = [c]) :
    lowerFrom before (c :: cs) = c :: lowerFrom (c :: before) cs := by
  have hsigma : c ≠ '\u03A3' := by
    rintro rfl
    rw [lowerChar_sigma] at hc
    simp at hc
  rw [lowerFrom, if_neg hsigma, hc]
  rfl

theorem lowerFrom_eq_self (h : ∀ c ∈ cs, lowerChar c = [c]) : lowerFrom before cs = cs := by
  induction cs generalizing before with
  | nil => rfl
  | cons c cs ih =>
    rw [lowerFrom_cons_of_self (h c List.mem_cons_self),
      ih fun c' hc' => h c' (List.mem_cons_of_mem c hc')]

/-- Where a character in a lower-cased text comes from: at the end of a word, a sigma has another
form. -/
theorem mem_lowerFrom {d : Char} (h : d ∈ lowerFrom before cs) :
    (∃ c ∈ cs, d ∈ lowerChar c) ∨ d = '\u03C2' := by
  induction cs generalizing before with
  | nil => simp [lowerFrom] at h
  | cons c cs ih =>
    rw [lowerFrom, List.mem_append] at h
    rcases h with h | h
    · split at h
      · next hsigma =>
        rw [List.mem_singleton] at h
        split at h
        · exact Or.inr h
        · left
          refine ⟨c, List.mem_cons_self, ?_⟩
          rw [hsigma, lowerChar_sigma, h]
          exact List.mem_singleton_self _
      · exact Or.inl ⟨c, List.mem_cons_self, h⟩
    · rcases ih h with ⟨c', hc', hd⟩ | hd
      · exact Or.inl ⟨c', List.mem_cons_of_mem c hc', hd⟩
      · exact Or.inr hd

theorem lowerChar_of_mem_lowerChars {d : Char} (h : d ∈ lowerChars cs) : lowerChar d = [d] := by
  rcases mem_lowerFrom h with ⟨c, -, hd⟩ | rfl
  · exact lowerChar_of_mem hd
  · decide +kernel

theorem dot_mem_lowerChars (h : '.' ∈ lowerChars cs) : '.' ∈ cs := by
  rcases mem_lowerFrom h with ⟨c, hc, hd⟩ | hd
  · rw [← dot_mem_lowerChar hd]
    exact hc
  · simp at hd

/-- Only caseless characters give a text of caseless characters in lower case. -/
theorem caseless_of_lowerFrom (h : ∀ d ∈ lowerFrom before cs, Caseless d) :
    ∀ c ∈ cs, Caseless c := by
  induction cs generalizing before with
  | nil => simp
  | cons c cs ih =>
    unfold lowerFrom at h
    simp only [List.mem_append] at h
    have hrest : ∀ c' ∈ cs, Caseless c' := ih fun d hd => h d (Or.inr hd)
    have hfirst : Caseless c := by
      by_cases hsigma : c = '\u03A3'
      · have hform := fun d hd => h d (Or.inl hd)
        rw [if_pos hsigma, List.forall_mem_singleton] at hform
        split at hform <;> exact absurd hform (by decide)
      · obtain ⟨d, hd⟩ := List.exists_mem_of_ne_nil _ (lowerChar_ne_nil c)
        have hcaseless : Caseless d := h d (Or.inl (by rwa [if_neg hsigma]))
        rwa [hcaseless.eq_of_mem_lowerChar hd]
    exact List.forall_mem_cons.mpr ⟨hfirst, hrest⟩

theorem lowerChars_of_caseless (h : ∀ c ∈ cs, Caseless c) : lowerChars cs = cs :=
  lowerFrom_eq_self fun c hc => (h c hc).lowerChar

end

/-- A text in lower case is its own lower-case form. -/
theorem lower_lower (s : String) : lower (lower s) = lower s := by
  have hself : lowerChars (lowerChars s.toList) = lowerChars s.toList :=
    lowerFrom_eq_self fun c => lowerChar_of_mem_lowerChars
  unfold lower
  rw [String.toList_ofList, hself]

end Courier.Text
