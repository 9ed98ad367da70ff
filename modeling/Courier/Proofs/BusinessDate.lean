import Courier.Proofs.Contract
import Mathlib.Data.List.Basic

/-! Which texts are taken for a business date: the days of the calendar in the form `YYYY-MM-DD`,
and some looser spellings that have as many bytes. -/
namespace Courier.BusinessDate

/-- The number that digits stand for. -/
def worth (ds : List Char) : Nat := ds.foldl (fun n c => n * 10 + (c.toNat - 48)) 0

structure IsNumber (ds : List Char) : Prop where
  digits : ∀ c ∈ ds, c.isDigit = true
  nonempty : ds ≠ []

def Blanks (cs : List Char) : Prop := ∀ c ∈ cs, Text.isBlank c = true

/-- The ways to write a year: up to four digits, or a sign and any digits. -/
inductive SpellsYear : List Char → Int → Prop
  | plain {ds : List Char} (h : IsNumber ds) (hlength : ds.length ≤ 4) : SpellsYear ds (worth ds)
  | minus {ds : List Char} (h : IsNumber ds) : SpellsYear ('-' :: ds) (-(worth ds))
  | plus {ds : List Char} (h : IsNumber ds) : SpellsYear ('+' :: ds) (worth ds)

/-- The ways to write a month or a day: one digit or two. -/
inductive SpellsPart : List Char → Nat → Prop
  | mk {ds : List Char} (h : IsNumber ds) (hlength : ds.length ≤ 2) : SpellsPart ds (worth ds)

/-- The ways to write a date, whether there is such a day or not: year, month and day with dashes
between them, each with blanks in front. -/
inductive Spells : List Char → Day → Prop
  | mk {b₁ b₂ b₃ ys ms ds : List Char} {date : Day} (hb₁ : Blanks b₁)
      (year : SpellsYear ys date.year) (hb₂ : Blanks b₂) (month : SpellsPart ms date.month)
      (hb₃ : Blanks b₃) (day : SpellsPart ds date.day) :
      Spells (b₁ ++ (ys ++ '-' :: (b₂ ++ (ms ++ '-' :: (b₃ ++ ds))))) date

section
variable {c : Char}

theorem isDigit_iff : c.isDigit = true ↔ 48 ≤ c.toNat ∧ c.toNat ≤ 57 := Char.isDigit_iff_toNat

theorem isBlank_of_isDigit (h : c.isDigit = true) : Text.isBlank c = false := by
  obtain ⟨hlow, hhigh⟩ := isDigit_iff.mp h
  rw [Bool.eq_false_iff]
  intro hblank
  simp [Text.isBlank, Text.inRanges, Text.blankRanges, Text.CodeRange.contains] at hblank
  omega

theorem utf8Size_of_isDigit (h : c.isDigit = true) : c.utf8Size = 1 := by
  obtain ⟨hlow, hhigh⟩ := isDigit_iff.mp h
  have hval : c.val.toNat ≤ 127 := Nat.le_trans hhigh (by decide)
  exact Char.utf8Size_eq_one_iff.mpr (UInt32.le_iff_toNat_le.mpr hval)

theorem ne_of_isDigit (h : c.isDigit = true) {d : Char} (hd : d.isDigit = false) : c ≠ d := by
  rintro rfl
  rw [h] at hd
  cases hd

end

section
variable {cs ds rest : List Char} {most n : Nat}

theorem IsNumber.head? (h : IsNumber ds) (rest : List Char) :
    ∃ c tail, ds ++ rest = c :: tail ∧ c.isDigit = true := by
  obtain ⟨c, tail, rfl⟩ := List.exists_cons_of_ne_nil h.nonempty
  exact ⟨c, tail ++ rest, rfl, h.digits c List.mem_cons_self⟩

/-- A number ends where no digit follows. -/
theorem readNumber_append (h : IsNumber ds) (hlength : ds.length ≤ most)
    (hrest : ∀ c ∈ rest.head?, c.isDigit = false) :
    readNumber most (ds ++ rest) = some (worth ds, rest) := by
  have hstop : (rest.take (most - ds.length)).takeWhile Char.isDigit = [] := by
    cases rest with
    | nil => simp
    | cons c rest =>
      have hc : c.isDigit = false := hrest c rfl
      cases most - ds.length <;> simp [hc]
  have hdigits : ((ds ++ rest).take most).takeWhile Char.isDigit = ds := by
    rw [List.take_append, List.take_of_length_le hlength, List.takeWhile_append_of_pos h.digits,
      hstop, List.append_nil]
  have hne : ds.isEmpty = false := by simpa using h.nonempty
  unfold readNumber
  rw [hdigits]
  simp [hne, worth]

theorem of_readNumber (h : readNumber most cs = some (n, rest)) :
    ∃ ds, IsNumber ds ∧ ds.length ≤ most ∧ n = worth ds ∧ cs = ds ++ rest := by
  unfold readNumber at h
  dsimp only at h
  generalize hds : (cs.take most).takeWhile Char.isDigit = ds at h
  have hpre : ds <+: cs.take most := hds ▸ List.takeWhile_prefix _
  split at h
  · cases h
  · next hne =>
    simp only [Option.some.injEq, Prod.mk.injEq] at h
    obtain ⟨rfl, rfl⟩ := h
    refine ⟨ds, ⟨?_, by simpa using hne⟩, ?_, rfl, ?_⟩
    · rw [← hds]
      exact List.all_eq_true.mp List.all_takeWhile
    · have hlen := hpre.length_le
      rw [List.length_take] at hlen
      omega
    · exact (List.prefix_iff_eq_append.mp (hpre.trans (List.take_prefix most cs))).symm

theorem dropWhile_blanks (hcs : Blanks cs) (hrest : ∀ c ∈ rest.head?, Text.isBlank c = false) :
    (cs ++ rest).dropWhile Text.isBlank = rest := by
  rw [List.dropWhile_append_of_pos hcs]
  cases rest with
  | nil => rfl
  | cons c rest => simp [hrest c rfl]

theorem exists_blanks (cs : List Char) :
    ∃ b, Blanks b ∧ cs = b ++ cs.dropWhile Text.isBlank :=
  ⟨cs.takeWhile Text.isBlank, List.all_eq_true.mp List.all_takeWhile,
    List.takeWhile_append_dropWhile.symm⟩

theorem readPart_append {b : List Char} (hb : Blanks b) (h : SpellsPart ds n)
    (hrest : ∀ c ∈ rest.head?, c.isDigit = false) :
    readPart (b ++ (ds ++ rest)) = some (n, rest) := by
  obtain ⟨hnumber, hlength⟩ := h
  obtain ⟨c, tail, hhead, hc⟩ := hnumber.head? rest
  have hblank : ∀ c ∈ (ds ++ rest).head?, Text.isBlank c = false := by
    rw [hhead]
    simpa using isBlank_of_isDigit hc
  unfold readPart
  rw [dropWhile_blanks hb hblank]
  exact readNumber_append hnumber hlength hrest

theorem of_readPart (h : readPart cs = some (n, rest)) :
    ∃ b ds, Blanks b ∧ SpellsPart ds n ∧ cs = b ++ (ds ++ rest) := by
  obtain ⟨b, hb, hcs⟩ := exists_blanks cs
  obtain ⟨ds, hnumber, hlength, rfl, hdrop⟩ := of_readNumber h
  exact ⟨b, ds, hb, .mk hnumber hlength, hdrop ▸ hcs⟩

theorem readYear_append {b ys : List Char} {year : Int} (hb : Blanks b) (h : SpellsYear ys year)
    (hrest : ∀ c ∈ rest.head?, c.isDigit = false) :
    readYear (b ++ (ys ++ rest)) = some (year, rest) := by
  have hlength : ∀ {ds : List Char}, ds.length ≤ (ds ++ rest).length := by simp
  unfold readYear
  cases h with
  | plain hnumber hfour =>
    obtain ⟨c, tail, hhead, hc⟩ := hnumber.head? rest
    have hblank : ∀ c ∈ (ys ++ rest).head?, Text.isBlank c = false := by
      rw [hhead]
      simpa using isBlank_of_isDigit hc
    have hminus : c ≠ '-' := ne_of_isDigit hc rfl
    have hplus : c ≠ '+' := ne_of_isDigit hc rfl
    have hread := readNumber_append hnumber hfour hrest
    rw [dropWhile_blanks hb hblank]
    rw [hhead] at hread ⊢
    split
    · next heq => exact absurd (List.cons.inj heq).1 hminus
    · next heq => exact absurd (List.cons.inj heq).1 hplus
    · rw [hread]
      rfl
  | @minus ds hnumber =>
    rw [dropWhile_blanks hb (by simp; decide)]
    simp only [List.cons_append, readNumber_append hnumber hlength hrest, Option.map_some]
  | @plus ds hnumber =>
    rw [dropWhile_blanks hb (by simp; decide)]
    simp only [List.cons_append, readNumber_append hnumber hlength hrest, Option.map_some]

theorem of_readYear {year : Int} (h : readYear cs = some (year, rest)) :
    ∃ b ys, Blanks b ∧ SpellsYear ys year ∧ cs = b ++ (ys ++ rest) := by
  obtain ⟨b, hb, hcs⟩ := exists_blanks cs
  unfold readYear at h
  split at h
  · next rest' hdrop =>
    simp only [Option.map_eq_some_iff, Prod.mk.injEq, Prod.exists] at h
    obtain ⟨n, after, hread, rfl, rfl⟩ := h
    obtain ⟨ds, hnumber, -, rfl, rfl⟩ := of_readNumber hread
    exact ⟨b, '-' :: ds, hb, .minus hnumber, hcs.trans (congrArg (b ++ ·) hdrop)⟩
  · next rest' hdrop =>
    simp only [Option.map_eq_some_iff, Prod.mk.injEq, Prod.exists] at h
    obtain ⟨n, after, hread, rfl, rfl⟩ := h
    obtain ⟨ds, hnumber, -, rfl, rfl⟩ := of_readNumber hread
    exact ⟨b, '+' :: ds, hb, .plus hnumber, hcs.trans (congrArg (b ++ ·) hdrop)⟩
  · simp only [Option.map_eq_some_iff, Prod.mk.injEq, Prod.exists] at h
    obtain ⟨n, after, hread, rfl, rfl⟩ := h
    obtain ⟨ds, hnumber, hlength, rfl, hdrop⟩ := of_readNumber hread
    exact ⟨b, ds, hb, .plain hnumber hlength, hdrop ▸ hcs⟩

theorem of_readDash (h : readDash cs = some rest) : cs = '-' :: rest := by
  unfold readDash at h
  split at h
  · rw [Option.some.inj h]
  · cases h

end

/-- A text is read as a date just in case it is one of the ways to write this day. -/
theorem parse?_eq_some_iff {cs : List Char} {date : Day} :
    parse? cs = some date ↔ Spells cs date ∧ date.valid = true := by
  constructor
  · intro h
    unfold parse? at h
    simp only [Option.bind_eq_bind, Option.bind_eq_some_iff, Prod.exists] at h
    obtain ⟨year, cs₁, hyear, cs₂, hdash, month, cs₃, hmonth, cs₄, hdash', day, cs₅, hday, h⟩ := h
    split at h
    · next hend =>
      rw [Bool.and_eq_true, List.isEmpty_iff] at hend
      obtain ⟨rfl, hvalid⟩ := hend
      obtain ⟨b₁, ys, hb₁, year, rfl⟩ := of_readYear hyear
      obtain ⟨b₂, ms, hb₂, month, rfl⟩ := of_readPart hmonth
      obtain ⟨b₃, ds, hb₃, day, rfl⟩ := of_readPart hday
      rw [of_readDash hdash, of_readDash hdash', List.append_nil, ← Option.some.inj h]
      exact ⟨.mk hb₁ year hb₂ month hb₃ day, hvalid⟩
    · cases h
  · rintro ⟨⟨hb₁, year, hb₂, month, hb₃, day⟩, hvalid⟩
    have hday := readPart_append hb₃ day fun c (hc : c ∈ ([] : List Char).head?) => by cases hc
    rw [List.append_nil] at hday
    unfold parse?
    rw [readYear_append hb₁ year (by simp), Option.bind_eq_bind, Option.bind_some]
    simp only [readDash, Option.bind_eq_bind, Option.bind_some]
    rw [readPart_append hb₂ month (by simp)]
    simp only [Option.bind_some, hday]
    simp [hvalid]

/-- Four digits, two and two with dashes between them, which name a day of the calendar. -/
def IsDay (s : String) : Prop :=
  ∃ ys ms ds : List Char, s.toList = ys ++ '-' :: (ms ++ '-' :: ds) ∧
    (∀ c ∈ ys ++ ms ++ ds, c.isDigit = true) ∧ ys.length = 4 ∧ ms.length = 2 ∧ ds.length = 2 ∧
    (⟨worth ys, worth ms, worth ds⟩ : Day).valid = true

/-- Another way to write a day in as many bytes: with a sign or with blanks. -/
def IsLooseDay (s : String) : Prop :=
  (∃ date : Day, Spells s.toList date ∧ date.valid = true) ∧ s.utf8ByteSize = 10 ∧
    ∃ c ∈ s.toList, Text.isBlank c = true ∨ s.toList.head? = some c ∧ (c = '+' ∨ c = '-')

theorem utf8ByteSize_ofList {cs : List Char} (h : ∀ c ∈ cs, c.utf8Size = 1) :
    (String.ofList cs).utf8ByteSize = cs.length := by
  have hbytes : (cs.flatMap String.utf8EncodeChar).length = cs.length := by
    induction cs with
    | nil => rfl
    | cons c cs ih =>
      rw [List.flatMap_cons, List.length_append, String.length_utf8EncodeChar,
        h c List.mem_cons_self, ih fun c' hc' => h c' (List.mem_cons_of_mem c hc'),
        List.length_cons, Nat.add_comm]
  unfold String.utf8ByteSize
  rw [String.toByteArray_ofList, List.utf8Encode, List.size_toByteArray, hbytes]

/-- Digits with two dashes between them have a byte for each character. -/
theorem utf8ByteSize_of_digits {s : String} {ys ms ds : List Char}
    (hs : s.toList = ys ++ '-' :: (ms ++ '-' :: ds))
    (hdigits : ∀ c ∈ ys ++ ms ++ ds, c.isDigit = true) :
    s.utf8ByteSize = ys.length + ms.length + ds.length + 2 := by
  have hsize : ∀ c ∈ s.toList, c.utf8Size = 1 := by
    intro c hc
    rw [hs] at hc
    by_cases hdash : c = '-'
    · rw [hdash]
      decide
    · apply utf8Size_of_isDigit
      apply hdigits
      simpa [hdash] using hc
  have hbytes := utf8ByteSize_ofList hsize
  rw [String.ofList_toList, hs] at hbytes
  simp only [List.length_append, List.length_cons] at hbytes
  omega

theorem IsDay.accepts {s : String} (h : IsDay s) : accepts s = true := by
  obtain ⟨ys, ms, ds, hs, hdigits, hys, hms, hds, hvalid⟩ := h
  have number : ∀ {cs : List Char}, (∀ c ∈ cs, c ∈ ys ++ ms ++ ds) → 0 < cs.length →
      IsNumber cs := fun hsub hpos =>
    ⟨fun c hc => hdigits c (hsub c hc), List.ne_nil_of_length_pos hpos⟩
  have spelled : Spells s.toList ⟨worth ys, worth ms, worth ds⟩ := by
    rw [hs]
    have none : Blanks [] := nofun
    exact .mk none (.plain (number (by simp +contextual) (by omega)) (by omega)) none
      (.mk (number (by simp +contextual) (by omega)) (by omega)) none
      (.mk (number (by simp +contextual) (by omega)) (by omega))
  have hsize := utf8ByteSize_of_digits hs hdigits
  have hread := parse?_eq_some_iff.mpr ⟨spelled, hvalid⟩
  unfold BusinessDate.accepts
  rw [hread, Option.isSome_some, Bool.and_true, beq_iff_eq]
  omega

theorem IsDay.not_loose {s : String} (h : IsDay s) : ¬ IsLooseDay s := by
  obtain ⟨ys, ms, ds, hs, hdigits, hys, -⟩ := h
  rintro ⟨-, -, c, hc, hblank | ⟨hhead, hsign⟩⟩
  · rw [hs] at hc
    by_cases hdash : c = '-'
    · rw [hdash] at hblank
      revert hblank
      decide
    · have hdigit : c.isDigit = true := by
        apply hdigits
        simpa [hdash] using hc
      rw [isBlank_of_isDigit hdigit] at hblank
      cases hblank
  · obtain ⟨c', tail, rfl⟩ := List.exists_cons_of_length_pos (by omega : 0 < ys.length)
    rw [hs, List.cons_append, List.head?_cons] at hhead
    have hdigit : c'.isDigit = true := hdigits c' (by simp)
    rw [Option.some.inj hhead] at hdigit
    rcases hsign with rfl | rfl <;> cases hdigit

/-- A day that is written without sign and blanks in ten bytes has all its digits. -/
theorem Spells.isDay {s : String} {date : Day} (h : Spells s.toList date)
    (hvalid : date.valid = true) (hsize : s.utf8ByteSize = 10)
    (hblank : ∀ c ∈ s.toList, Text.isBlank c = false)
    (hsign : ∀ c, s.toList.head? = some c → c ≠ '+' ∧ c ≠ '-') : IsDay s := by
  generalize hcs : s.toList = cs at h hblank hsign
  obtain @⟨b₁, b₂, b₃, ys, ms, ds, date, hb₁, year, hb₂, month, hb₃, day⟩ := h
  have empty : ∀ {b : List Char}, Blanks b → (∀ c ∈ b, Text.isBlank c = false) → b = [] := by
    intro b hb hnone
    cases b with
    | nil => rfl
    | cons c b =>
      have hc := hnone c List.mem_cons_self
      rw [hb c List.mem_cons_self] at hc
      cases hc
  obtain rfl := empty hb₁ fun c hc => hblank c (by simp [hc])
  obtain rfl := empty hb₂ fun c hc => hblank c (by simp [hc])
  obtain rfl := empty hb₃ fun c hc => hblank c (by simp [hc])
  simp only [List.nil_append] at hcs hsign
  obtain ⟨year, m, d⟩ := date
  obtain ⟨hmonth, hms⟩ := month
  obtain ⟨hday, hds⟩ := day
  cases year with
  | minus => exact absurd rfl (hsign _ rfl).2
  | plus => exact absurd rfl (hsign _ rfl).1
  | plain hyear hys =>
    have hdigits : ∀ c ∈ ys ++ ms ++ ds, c.isDigit = true := by
      intro c hc
      simp only [List.mem_append] at hc
      rcases hc with (hc | hc) | hc
      · exact hyear.digits c hc
      · exact hmonth.digits c hc
      · exact hday.digits c hc
    have hlength := utf8ByteSize_of_digits hcs hdigits
    exact ⟨ys, ms, ds, hcs, hdigits, by omega, by omega, by omega, hvalid⟩

theorem accepts_iff (s : String) : accepts s = true ↔ IsDay s ∨ IsLooseDay s := by
  constructor
  · intro h
    unfold accepts at h
    rw [Bool.and_eq_true, beq_iff_eq, Option.isSome_iff_exists] at h
    obtain ⟨hsize, date, hdate⟩ := h
    obtain ⟨spelled, hvalid⟩ := parse?_eq_some_iff.mp hdate
    by_cases hloose : ∃ c ∈ s.toList,
        Text.isBlank c = true ∨ s.toList.head? = some c ∧ (c = '+' ∨ c = '-')
    · exact Or.inr ⟨⟨date, spelled, hvalid⟩, hsize, hloose⟩
    · push Not at hloose
      left
      apply spelled.isDay hvalid hsize
      · intro c hc
        simpa using (hloose c hc).1
      · intro c hc
        exact (hloose c (List.mem_of_mem_head? hc)).2 hc
  · rintro (h | ⟨⟨date, spelled, hvalid⟩, hsize, -⟩)
    · exact h.accepts
    · have hread := parse?_eq_some_iff.mpr ⟨spelled, hvalid⟩
      unfold accepts
      rw [hread, hsize]
      rfl

end Courier.BusinessDate

namespace Courier

namespace Contract
open BusinessDate

/-- A contract that is fine otherwise is accepted if its date, without the blanks around it, names a
day of the calendar in the form `YYYY-MM-DD`, and otherwise just in case it is one of the looser
spellings with a sign or blanks. -/
theorem accepted_iff {c : Contract} (hmodule : Text.allBlank c.moduleName = false)
    (hqueue : Text.allBlank c.queueName = false) (hexchange : c.exchange.check = .ok ()) :
    (c.validate = .ok () ↔
      IsDay (Text.trim c.businessDate) ∨ IsLooseDay (Text.trim c.businessDate)) ∧
    ¬ (IsDay (Text.trim c.businessDate) ∧ IsLooseDay (Text.trim c.businessDate)) := by
  refine ⟨?_, fun h => h.1.not_loose h.2⟩
  rw [validate_eq_ok, ← accepts_iff]
  simp [hmodule, hqueue, hexchange]

end Contract

/-- A contract with this date. -/
def Trial.dated (date : String) : Contract where
  payloadType := .text
  exchange := { Exchange.named "x" with kind := .fanout }
  moduleName := "m"
  queueName := "q"
  businessDate := date
  handler := ⟨fun _ _ => ⟨0, .done⟩, fun _ => ⟨0, .ok ()⟩, false⟩

namespace Contract
open BusinessDate Trial

theorem leap_day_accepted :
    Text.allBlank (dated " 2024-02-29").moduleName = false ∧
      Text.allBlank (dated " 2024-02-29").queueName = false ∧
      (dated " 2024-02-29").exchange.check = .ok () ∧
      IsDay (Text.trim (dated " 2024-02-29").businessDate) ∧
      (dated " 2024-02-29").validate = .ok () := by
  have hmodule : Text.allBlank (dated " 2024-02-29").moduleName = false := by decide +kernel
  have hqueue : Text.allBlank (dated " 2024-02-29").queueName = false := by decide +kernel
  have hexchange : (dated " 2024-02-29").exchange.check = .ok () := by decide +kernel
  have day : IsDay (Text.trim (dated " 2024-02-29").businessDate) :=
    ⟨"2024".toList, "02".toList, "29".toList, by decide +kernel,
      List.all_eq_true.mp (by decide +kernel), by decide +kernel, by decide +kernel,
      by decide +kernel, by decide +kernel⟩
  exact ⟨hmodule, hqueue, hexchange, day,
    (accepted_iff hmodule hqueue hexchange).1.mpr (Or.inl day)⟩

/-- A blank may stand for the first digit of the month. -/
theorem spaced_day_accepted : (dated "2023- 8-03").validate = .ok () ∧
    ¬ IsDay (Text.trim (dated "2023- 8-03").businessDate) := by
  refine ⟨by decide +kernel, ?_⟩
  rintro ⟨ys, ms, ds, hs, hdigits, -⟩
  have hblank : ' ' ∈ (Text.trim (dated "2023- 8-03").businessDate).toList := by decide +kernel
  have hdigit : (' ').isDigit = true := by
    apply hdigits
    rw [hs] at hblank
    simpa using hblank
  cases hdigit

end Contract
end Courier
