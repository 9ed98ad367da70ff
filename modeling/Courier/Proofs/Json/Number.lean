import Courier.Json.Token
import Mathlib.Data.List.Induction

/-! Numerals are read as they were written, and whole numbers of 64 bits have their values. -/
namespace Courier.Json

theorem decimalDigits_ne_nil (n : Nat) : decimalDigits n ≠ [] := by
  unfold decimalDigits
  split <;> simp

theorem lt_of_mem_decimalDigits {n d : Nat} (h : d ∈ decimalDigits n) : d < 10 := by
  induction n using decimalDigits.induct with
  | case1 n hn =>
    rw [decimalDigits, if_pos hn, List.mem_singleton] at h
    omega
  | case2 n hn ih =>
    rw [decimalDigits, if_neg hn, List.mem_append, List.mem_singleton] at h
    rcases h with h | h
    · exact ih h
    · omega

/-- Only zero begins with a zero. -/
theorem head?_decimalDigits {n : Nat} (hn : 0 < n) : (decimalDigits n).head? ≠ some 0 := by
  induction n using decimalDigits.induct with
  | case1 n hlt =>
    rw [decimalDigits, if_pos hlt]
    simp only [List.head?_cons, ne_eq, Option.some.injEq]
    omega
  | case2 n hge ih =>
    obtain ⟨d, ds, hds⟩ := List.exists_cons_of_ne_nil (decimalDigits_ne_nil (n / 10))
    have hhead := ih (by omega)
    rw [decimalDigits, if_neg hge]
    rw [hds] at hhead ⊢
    exact hhead

@[simp] theorem digitsValue_append (ds es : List Nat) :
    digitsValue (ds ++ es) = es.foldl (fun n d => n * 10 + d) (digitsValue ds) :=
  List.foldl_append

theorem digitsValue_decimalDigits (n : Nat) : digitsValue (decimalDigits n) = n := by
  induction n using decimalDigits.induct with
  | case1 n hlt =>
    rw [decimalDigits, if_pos hlt]
    simp [digitsValue]
  | case2 n hge ih =>
    rw [decimalDigits, if_neg hge, digitsValue_append, ih]
    simp only [List.foldl_cons, List.foldl_nil]
    omega

theorem le_foldl_digits (ds : List Nat) (n : Nat) : n ≤ ds.foldl (fun n d => n * 10 + d) n := by
  induction ds generalizing n with
  | nil => exact Nat.le_refl n
  | cons d ds ih =>
    have hrest := ih (n * 10 + d)
    rw [List.foldl_cons]
    omega

/-- All digits of a number within 64 bits are appended. -/
theorem appendDigits_eq (ds : List Nat) (n : Nat)
    (h : ds.foldl (fun n d => n * 10 + d) n ≤ wordMax) :
    appendDigits n ds = (ds.foldl (fun n d => n * 10 + d) n, []) := by
  induction ds generalizing n with
  | nil => rfl
  | cons d ds ih =>
    rw [List.foldl_cons] at h ⊢
    have hle := le_foldl_digits ds (n * 10 + d)
    rw [appendDigits, if_neg (by omega)]
    exact ih (n * 10 + d) h

theorem foldl_of_appendDigits {ds : List Nat} {n w : Nat} (h : appendDigits n ds = (w, [])) :
    ds.foldl (fun n d => n * 10 + d) n = w := by
  induction ds generalizing n with
  | nil => exact congrArg Prod.fst h
  | cons d ds ih =>
    rw [appendDigits] at h
    split at h
    · cases h
    · exact ih h

theorem digitByte_toNat {d : Nat} (h : d < 10) : (digitByte d).toNat = 0x30 + d :=
  UInt8.toNat_ofNat_of_lt' (show 0x30 + d < 256 by omega)

theorem isDigit_digitByte {d : Nat} (h : d < 10) : isDigit (digitByte d) = true := by
  have hd := digitByte_toNat h
  simp only [isDigit, Bool.and_eq_true, decide_eq_true_eq, UInt8.le_iff_toNat_le, hd]
  exact ⟨Nat.le_add_right _ _, by change 0x30 + d ≤ 0x39; omega⟩

/-- Digits, one of them at least. -/
def Digits (ds : List Nat) : Prop := ds ≠ [] ∧ ∀ d ∈ ds, d < 10

theorem digits_decimalDigits (n : Nat) : Digits (decimalDigits n) :=
  ⟨decimalDigits_ne_nil n, fun _ => lt_of_mem_decimalDigits⟩

/-- Digits without a zero in front of others are those of their value. -/
theorem decimalDigits_digitsValue {ds : List Nat} (h : Digits ds)
    (hzero : ds.head? = some 0 → ds = [0]) : decimalDigits (digitsValue ds) = ds := by
  obtain ⟨hne, hlt⟩ := h
  induction ds using List.reverseRecOn with
  | nil => exact absurd rfl hne
  | append_singleton ds d ih =>
    have hd : d < 10 := hlt d (by simp)
    rw [digitsValue_append, List.foldl_cons, List.foldl_nil]
    cases ds with
    | nil =>
      rw [decimalDigits, if_pos (by simpa [digitsValue] using hd)]
      simp [digitsValue]
    | cons e es =>
      have he : e ≠ 0 := by
        rintro rfl
        have := hzero rfl
        simp at this
      have hvalue : e ≤ digitsValue (e :: es) := by
        have hle := le_foldl_digits es (0 * 10 + e)
        rw [Nat.zero_mul, Nat.zero_add] at hle
        simpa [digitsValue] using hle
      have hfront : decimalDigits (digitsValue (e :: es)) = e :: es := by
        refine ih ?_ (List.cons_ne_nil e es) fun c hc => hlt c (List.mem_append_left _ hc)
        intro h
        exact absurd (Option.some.inj h) he
      have hdiv : (digitsValue (e :: es) * 10 + d) / 10 = digitsValue (e :: es) := by omega
      have hmod : (digitsValue (e :: es) * 10 + d) % 10 = d := by omega
      rw [decimalDigits, if_neg (by omega), hdiv, hmod, hfront]

/-- The ways to write what stands behind the point, point included. -/
inductive FractionSpelling : List Nat → Bytes → Prop
  | none : FractionSpelling [] []
  | some {ds : List Nat} (h : Digits ds) : FractionSpelling ds (0x2E :: ds.map digitByte)

inductive SignSpelling : Bool → Bytes → Prop
  | none : SignSpelling false []
  | plus : SignSpelling false [0x2B]
  | minus : SignSpelling true [0x2D]

inductive ExponentSpelling : Option (Bool × List Nat) → Bytes → Prop
  | none : ExponentSpelling none []
  | some {e : UInt8} {minus : Bool} {sign : Bytes} {ds : List Nat} (he : e = 0x65 ∨ e = 0x45)
      (hsign : SignSpelling minus sign) (h : Digits ds) :
      ExponentSpelling (some (minus, ds)) (e :: (sign ++ ds.map digitByte))

/-- The ways to write a numeral. No zero stands in front of other digits. -/
inductive NumeralSpelling : Numeral → Bytes → Prop
  | mk {negative : Bool} {whole fraction : List Nat} {exponent : Option (Bool × List Nat)}
      {fs es : Bytes} (hwhole : Digits whole) (hzero : whole.head? = some 0 → whole = [0])
      (hfraction : FractionSpelling fraction fs) (hexponent : ExponentSpelling exponent es) :
      NumeralSpelling ⟨negative, whole, fraction, exponent⟩
        ((if negative then [0x2D] else []) ++ (whole.map digitByte ++ (fs ++ es)))

/-- No numeral goes on with these bytes. -/
def EndsNumeral (rest : Bytes) : Prop :=
  ∀ b ∈ rest.head?, isDigit b = false ∧ b ≠ 0x2E ∧ b ≠ 0x65 ∧ b ≠ 0x45

theorem scanDigits_digits {ds : List Nat} {rest : Bytes} (hd : ∀ d ∈ ds, d < 10)
    (hr : ∀ b ∈ rest.head?, isDigit b = false) :
    scanDigits (ds.map digitByte ++ rest) = (ds, rest) := by
  have hall : ∀ b ∈ ds.map digitByte, isDigit b = true := by
    intro b hb
    obtain ⟨d, hm, rfl⟩ := List.mem_map.mp hb
    exact isDigit_digitByte (hd d hm)
  have hstop : rest.takeWhile isDigit = [] ∧ rest.dropWhile isDigit = rest := by
    cases rest with
    | nil => exact ⟨rfl, rfl⟩
    | cons b rest =>
      have hb := hr b rfl
      simp [hb]
  have hvalues : (ds.map digitByte).map (fun b => b.toNat - 0x30) = ds := by
    rw [List.map_map]
    refine (List.map_congr_left fun d hm => ?_).trans (List.map_id ds)
    simp [digitByte_toNat (hd d hm)]
  unfold scanDigits
  rw [List.takeWhile_append_of_pos hall, List.dropWhile_append_of_pos hall, hstop.1, hstop.2,
    List.append_nil, hvalues]

theorem scanFraction_spelling {ds : List Nat} {bs rest : Bytes} (h : FractionSpelling ds bs)
    (hr : ∀ b ∈ rest.head?, isDigit b = false ∧ b ≠ 0x2E) :
    scanFraction (bs ++ rest) = some (ds, rest) := by
  cases h with
  | none =>
    rw [List.nil_append]
    unfold scanFraction
    split
    · exact absurd rfl (hr 0x2E rfl).2
    · rfl
  | some h =>
    obtain ⟨hne, hlt⟩ := h
    rw [List.cons_append, scanFraction, scanDigits_digits hlt fun b hb => (hr b hb).1]
    simp [hne]

/-- A digit is none of the signs. -/
theorem scanSign_spelling {minus : Bool} {sign bs : Bytes} (h : SignSpelling minus sign)
    (hdigit : ∀ b ∈ bs.head?, isDigit b = true) : scanSign (sign ++ bs) = (minus, bs) := by
  cases h with
  | none =>
    rw [List.nil_append]
    unfold scanSign
    split
    · cases hdigit 0x2B rfl
    · cases hdigit 0x2D rfl
    · rfl
  | plus => rfl
  | minus => rfl

section
variable {rest : Bytes} (hr : EndsNumeral rest)
include hr

theorem scanExponent_spelling {exponent : Option (Bool × List Nat)} {bs : Bytes}
    (h : ExponentSpelling exponent bs) : scanExponent (bs ++ rest) = some (exponent, rest) := by
  cases h with
  | none =>
    cases rest with
    | nil => rfl
    | cons b rest =>
      obtain ⟨-, -, hlow, hhigh⟩ := hr b rfl
      rw [List.nil_append, scanExponent, if_neg (by simp [hlow, hhigh])]
  | @some e minus sign ds he hsign h =>
    obtain ⟨hne, hlt⟩ := h
    have hdigit : ∀ b ∈ (ds.map digitByte ++ rest).head?, isDigit b = true := by
      obtain ⟨d, ds, rfl⟩ := List.exists_cons_of_ne_nil hne
      intro b hb
      cases Option.some.inj hb
      exact isDigit_digitByte (hlt d List.mem_cons_self)
    rw [List.cons_append, List.append_assoc, scanExponent, if_pos he,
      scanSign_spelling hsign hdigit]
    dsimp only
    rw [scanDigits_digits hlt fun b hb => (hr b hb).1]
    simp [hne]

theorem scanNumeral_spelling {negative : Bool} {whole fraction : List Nat}
    {exponent : Option (Bool × List Nat)} {fs es : Bytes} (hwhole : Digits whole)
    (hzero : whole.head? = some 0 → whole = [0]) (hfraction : FractionSpelling fraction fs)
    (hexponent : ExponentSpelling exponent es) :
    scanNumeral negative (whole.map digitByte ++ ((fs ++ es) ++ rest)) =
      some (⟨negative, whole, fraction, exponent⟩, rest) := by
  obtain ⟨hne, hlt⟩ := hwhole
  have hafter : ∀ b ∈ (es ++ rest).head?, isDigit b = false ∧ b ≠ 0x2E := by
    cases hexponent with
    | none => exact fun b hb => ⟨(hr b hb).1, (hr b hb).2.1⟩
    | some he =>
      intro b hb
      cases Option.some.inj hb
      rcases he with rfl | rfl <;> decide
  have hbehind : ∀ b ∈ (fs ++ (es ++ rest)).head?, isDigit b = false := by
    cases hfraction with
    | none => exact fun b hb => (hafter b hb).1
    | some =>
      intro b hb
      cases Option.some.inj hb
      decide
  have hproper : (whole.isEmpty || (whole.head? == some 0 && whole.length != 1)) = false := by
    rw [Bool.or_eq_false_iff]
    refine ⟨by simpa using hne, ?_⟩
    by_cases h : whole.head? = some 0
    · rw [hzero h]
      rfl
    · simp [h]
  unfold scanNumeral
  rw [List.append_assoc, scanDigits_digits hlt hbehind]
  dsimp only
  rw [hproper, scanFraction_spelling hfraction hafter, if_neg Bool.false_ne_true,
    Option.bind_eq_bind, Option.bind_some, scanExponent_spelling hr hexponent]
  rfl

theorem scan_numeral {n : Numeral} {bs : Bytes} (h : NumeralSpelling n bs) :
    scan (bs ++ rest) = some (.numeral n, rest) := by
  cases h with
  | @mk negative whole fraction exponent fs es hwhole hzero hfraction hexponent =>
    have hscan : scanNumeral negative _ = some (⟨negative, whole, fraction, exponent⟩, rest) :=
      scanNumeral_spelling hr hwhole hzero hfraction hexponent
    cases negative with
    | true =>
      have hread : scan (0x2D :: (whole.map digitByte ++ ((fs ++ es) ++ rest))) =
          (scanNumeral true (whole.map digitByte ++ ((fs ++ es) ++ rest))).map
            fun out => (.numeral out.1, out.2) := rfl
      rw [hscan] at hread
      simpa using hread
    | false =>
      obtain ⟨d, ds, rfl⟩ := List.exists_cons_of_ne_nil hwhole.1
      have hd : d < 10 := hwhole.2 d List.mem_cons_self
      have hbyte := digitByte_toNat hd
      have hne : ∀ b : UInt8, (b.toNat < 0x30 ∨ 0x39 < b.toNat) → digitByte d ≠ b := by
        rintro b hb rfl
        omega
      have hread : scan (digitByte d :: (ds.map digitByte ++ ((fs ++ es) ++ rest))) =
          (scanNumeral false (digitByte d :: (ds.map digitByte ++ ((fs ++ es) ++ rest)))).map
            fun out => (.numeral out.1, out.2) := by
        simp only [scan, hne 0x7B (by decide), hne 0x7D (by decide), hne 0x5B (by decide),
          hne 0x5D (by decide), hne 0x2C (by decide), hne 0x3A (by decide), hne 0x22 (by decide),
          hne 0x2D (by decide), isDigit_digitByte hd, if_false, if_true]
      rw [List.map_cons, List.cons_append] at hscan
      rw [hscan] at hread
      simpa using hread

end

/-- The number has 64 bits, signed or not. -/
def InWord (n : Int) : Prop := -9223372036854775808 ≤ n ∧ n ≤ 18446744073709551615

instance (n : Int) : Decidable (InWord n) := inferInstanceAs (Decidable (_ ∧ _))

namespace Number

/-- A number as it is written. -/
def numeral : Number → Numeral
  | .int n => ⟨n < 0, decimalDigits n.natAbs, [], none⟩
  | .real negative x => ((scanNumeral negative (Bytes.ofString x.text)).map Prod.fst).getD default

theorem value?_numeral {n : Int} (h : InWord n) : (numeral (.int n)).value? = some (.int n) := by
  have hdigits : (decimalDigits n.natAbs).foldl (fun n d => n * 10 + d) 0 = n.natAbs :=
    digitsValue_decimalDigits n.natAbs
  have hread := appendDigits_eq (decimalDigits n.natAbs) 0 (by
    rw [hdigits]
    obtain ⟨hlow, hhigh⟩ := h
    unfold wordMax
    omega)
  rw [hdigits] at hread
  unfold Numeral.value? numeral
  dsimp only
  rw [hread]
  obtain ⟨hlow, hhigh⟩ := h
  by_cases hn : n < 0
  · have hsmall : 0 < n.natAbs ∧ n.natAbs ≤ 9223372036854775808 := by omega
    have hneg : -(n.natAbs : Int) = n := by omega
    simp only [hn, hsmall, hneg]
    rfl
  · have hpos : (n.natAbs : Int) = n := by omega
    simp only [hn, hpos]
    rfl

theorem numeral_spelling (n : Int) : NumeralSpelling (numeral (.int n)) (Number.int n).bytes := by
  have hzero : (decimalDigits n.natAbs).head? = some 0 → decimalDigits n.natAbs = [0] := by
    rcases Nat.eq_zero_or_pos n.natAbs with hn | hn
    · rw [hn, decimalDigits, if_pos (by decide)]
      exact fun _ => rfl
    · exact fun h => absurd h (head?_decimalDigits hn)
  have spelling : NumeralSpelling ⟨decide (n < 0), decimalDigits n.natAbs, [], none⟩ _ :=
    .mk (digits_decimalDigits n.natAbs) hzero .none .none
  simpa [bytes, numeral] using spelling

/-- A numeral whose value is a whole number is written as this number is. -/
theorem eq_numeral {x : Numeral} {bs : Bytes} (h : NumeralSpelling x bs) {n : Int}
    (hn : x.value? = some (.int n)) : x = numeral (.int n) := by
  cases h with
  | @mk negative whole fraction exponent _ _ hwhole hzero =>
    unfold Numeral.value? at hn
    generalize hw : appendDigits 0 whole = read at hn
    obtain ⟨w, left⟩ := read
    dsimp only at hn
    split at hn
    · next hplain =>
      simp only [Bool.and_eq_true, List.isEmpty_iff, Option.isNone_iff_eq_none] at hplain
      obtain ⟨⟨rfl, rfl⟩, rfl⟩ := hplain
      have hvalue : digitsValue whole = w := foldl_of_appendDigits hw
      have hdigits : decimalDigits w = whole := by
        rw [← hvalue]
        exact decimalDigits_digitsValue hwhole hzero
      cases negative with
      | false =>
        cases hn
        simp [numeral, hdigits]
      | true =>
        rw [if_neg (by simp)] at hn
        split at hn
        · next hpos =>
          cases hn
          simp [numeral, hdigits, hpos.1]
        · simp at hn
    · simp at hn

end Number
end Courier.Json
