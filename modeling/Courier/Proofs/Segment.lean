import Courier.Proofs.Address

/-! What is left of a name in the queue names: never only blanks, unless the name is an underscore
with nothing but blanks behind it. -/
namespace Courier

section
variable {cs : List Char}

theorem splitCapitals_of_not_upper (h : ∀ c ∈ cs, Text.isUpper c = false) :
    splitCapitals cs = cs := by
  unfold splitCapitals
  induction cs with
  | nil => rfl
  | cons c cs ih =>
    rw [List.flatMap_cons, ih fun c' hc' => h c' (List.mem_cons_of_mem c hc'),
      h c List.mem_cons_self]
    rfl

/-- A capital letter in a text in lower case is one that has no lower-case form, and is kept. -/
theorem not_upper_of_splitCapitals (lower : ∀ c ∈ cs, Text.lowerChar c = [c])
    (h : ∀ d ∈ splitCapitals cs, Text.Caseless d) : ∀ c ∈ cs, Text.isUpper c = false := by
  intro c hc
  rw [Bool.eq_false_iff]
  intro hupper
  have hmem : c ∈ splitCapitals cs := by
    refine List.mem_flatMap.mpr ⟨c, hc, ?_⟩
    rw [if_pos hupper, lower c hc]
    simp
  rw [(h c hmem).isUpper] at hupper
  cases hupper

end

theorem mem_of_mem_dropUnderscore {cs : List Char} {c : Char} (h : c ∈ cs) :
    c ∈ dropUnderscore cs ∨ c = '_' := by
  unfold dropUnderscore
  split
  · exact (List.mem_cons.mp h).symm
  · exact Or.inl h

theorem dropUnderscore_of_ne {c : Char} {cs : List Char} (h : c ≠ '_') :
    dropUnderscore (c :: cs) = c :: cs := by
  unfold dropUnderscore
  split
  · next heq => exact absurd (List.cons.inj heq).1 h
  · rfl

/-- A name leaves only blanks just in case there are only blanks in it behind an underscore that it
may begin with. -/
theorem allBlank_segment (raw : String) :
    Text.allBlank (segment raw) = (dropUnderscore raw.toList).all Text.isBlank := by
  unfold Text.allBlank segment
  rw [String.toList_ofList]
  have unchanged (h : ∀ c ∈ raw.toList, Text.Caseless c) :
      splitCapitals (Text.lowerChars raw.toList) = raw.toList := by
    rw [Text.lowerChars_of_caseless h]
    exact splitCapitals_of_not_upper fun c hc => (h c hc).isUpper
  have caseless {cs : List Char} (h : ∀ c ∈ dropUnderscore cs, Text.isBlank c = true) :
      ∀ c ∈ cs, Text.Caseless c :=
    fun c hc => (mem_of_mem_dropUnderscore hc).imp (h c) Or.inr
  rw [Bool.eq_iff_iff, List.all_eq_true, List.all_eq_true]
  constructor
  -- from the outside in: no capital was split, so nothing was lower-cased either
  · intro h
    have hsplit := caseless h
    have hupper := not_upper_of_splitCapitals
      (fun c hc => Text.lowerChar_of_mem_lowerChars hc) hsplit
    rw [splitCapitals_of_not_upper hupper] at hsplit
    rwa [unchanged (Text.caseless_of_lowerFrom hsplit)] at h
  · intro h
    rwa [unchanged (caseless h)]

/-- An underscore, and nothing but blanks behind it. -/
def BareUnderscore (raw : String) : Prop :=
  raw.toList.head? = some '_' ∧ raw.toList.tail.all Text.isBlank = true

instance (raw : String) : Decidable (BareUnderscore raw) := inferInstanceAs (Decidable (_ ∧ _))

theorem segment_blank_iff {raw : String} (h : Text.allBlank raw = false) :
    Text.allBlank (segment raw) = true ↔ BareUnderscore raw := by
  rw [allBlank_segment]
  unfold Text.allBlank at h
  unfold BareUnderscore
  cases hraw : raw.toList with
  | nil =>
    rw [hraw] at h
    cases h
  | cons c cs =>
    by_cases hc : c = '_'
    · simp [hc, dropUnderscore]
    · rw [hraw] at h
      rw [dropUnderscore_of_ne hc, h]
      simp [hc]

namespace Exchange
variable {x : Exchange}

theorem name_not_blank (valid : x.check = .ok ()) (named : x.isDefault = false) :
    Text.allBlank x.name = false := by
  unfold check at valid
  rw [named, if_neg Bool.false_ne_true] at valid
  split at valid
  · cases valid
  · next h => exact Bool.eq_false_iff.mpr h

/-- The part of a queue's name that tells of the exchange. -/
def segment (x : Exchange) : String := if x.isDefault then "default" else Courier.segment x.name

end Exchange

namespace Contract
variable {c : Contract}

/-- In the queue name of a contract that is accepted, the parts for module and exchange have a
character that is not blank, just in case the names that they are made from are no bare
underscores. The name of the default exchange is not used. -/
theorem segments_not_blank_iff (valid : c.validate = .ok ()) (env : String) :
    c.address env = ".".intercalate [env, segment c.moduleName, c.queueName,
        Text.trim c.businessDate, c.exchange.segment, c.exchange.kind.name] ∧
      (Text.allBlank (segment c.moduleName) = false ↔ ¬ BareUnderscore c.moduleName) ∧
      (Text.allBlank c.exchange.segment = false ↔
        c.exchange.isDefault = true ∨ ¬ BareUnderscore c.exchange.name) := by
  obtain ⟨hmodule, -, -, hcheck⟩ := c.validate_eq_ok.mp valid
  refine ⟨rfl, ?_, ?_⟩
  · rw [← segment_blank_iff hmodule, Bool.not_eq_true]
  · unfold Exchange.segment
    by_cases hdefault : c.exchange.isDefault = true
    · simp only [hdefault, if_true, true_or, iff_true]
      decide
    · have hname := Exchange.name_not_blank hcheck (Bool.not_eq_true _ ▸ hdefault)
      simp only [hdefault, if_false, false_or, Bool.false_eq_true]
      rw [← segment_blank_iff hname, Bool.not_eq_true]

open Trial

/-- A second underscore, or anything else behind the first, is kept. -/
theorem underscores_kept :
    let c := registrations "__" "_ Events" "2024-02-29"
    c.validate = .ok () ∧ ¬ BareUnderscore c.moduleName ∧ ¬ BareUnderscore c.exchange.name ∧
      Text.allBlank (segment c.moduleName) = false ∧ Text.allBlank c.exchange.segment = false := by
  intro c
  have valid : c.validate = .ok () := by decide +kernel
  have hmodule : ¬ BareUnderscore c.moduleName := by decide
  have hexchange : ¬ BareUnderscore c.exchange.name := by decide
  obtain ⟨-, modulePart, exchangePart⟩ := segments_not_blank_iff valid "dev"
  exact ⟨valid, hmodule, hexchange, modulePart.mpr hmodule, exchangePart.mpr (Or.inr hexchange)⟩

/-- A bare underscore is accepted as a name, and leaves nothing or only blanks in the queue's
name. -/
theorem bare_underscores_accepted :
    let c := registrations "_" "_ " "2024-02-29"
    c.validate = .ok () ∧ c.address "dev" = "dev..register.user.2024-02-29. .topic" ∧
      Text.allBlank (segment c.moduleName) = true ∧ Text.allBlank c.exchange.segment = true := by
  decide +kernel

end Contract
end Courier
