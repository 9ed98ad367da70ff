import Courier.Json.Text

/-! Texts are read as they were written: each escape stands for the character it was written for,
and no quote inside a text ends it. -/
namespace Courier

theorem Bytes.text?_utf8 (cs : List Char) :
    Bytes.text? (cs.flatMap String.utf8EncodeChar) = some (String.ofList cs) := by
  have hbytes : (⟨(cs.flatMap String.utf8EncodeChar).toArray⟩ : ByteArray) =
      (String.ofList cs).toByteArray := by
    rw [String.toByteArray_ofList]
    exact ByteArray.ext List.data_toByteArray.symm
  unfold text? String.fromUTF8?
  rw [dif_pos (hbytes ▸ (String.ofList cs).isValidUTF8)]
  exact congrArg some (String.toByteArray_inj.mp hbytes)

namespace Json

/-- A byte that stands for itself within a text. -/
def IsPlain (b : UInt8) : Prop := b ≠ 0x22 ∧ b ≠ 0x5C ∧ 0x20 ≤ b

theorem isPlain_ofNat {n : Nat} (hquote : n ≠ 0x22) (hslash : n ≠ 0x5C) (hlow : 0x20 ≤ n)
    (hhigh : n < 256) : IsPlain (UInt8.ofNat n) := by
  have hn : (UInt8.ofNat n).toNat = n := UInt8.toNat_ofNat_of_lt' hhigh
  refine ⟨fun h => ?_, fun h => ?_, ?_⟩
  · rw [h] at hn
    exact hquote hn.symm
  · rw [h] at hn
    exact hslash hn.symm
  · rw [UInt8.le_iff_toNat_le, hn]
    exact hlow

/-- A character that needs no escape is written in plain bytes. -/
theorem isPlain_of_mem {c : Char} {b : UInt8} (hquote : c ≠ '"') (hslash : c ≠ '\\')
    (hcontrol : 0x20 ≤ c.toNat) (hb : b ∈ String.utf8EncodeChar c) : IsPlain b := by
  have hq : c.val.toNat ≠ 0x22 := fun h => hquote (Char.ext (UInt32.toNat_inj.mp h))
  have hs : c.val.toNat ≠ 0x5C := fun h => hslash (Char.ext (UInt32.toNat_inj.mp h))
  have hc : 0x20 ≤ c.val.toNat := hcontrol
  unfold String.utf8EncodeChar at hb
  dsimp only at hb
  split at hb
  · rw [List.mem_singleton.mp hb]
    exact isPlain_ofNat hq hs hc (by omega)
  -- the bytes of longer forms are 0x80 and above
  · split at hb
    · simp only [List.mem_cons, List.not_mem_nil, or_false] at hb
      rcases hb with rfl | rfl <;> exact isPlain_ofNat (by omega) (by omega) (by omega) (by omega)
    · split at hb
      · simp only [List.mem_cons, List.not_mem_nil, or_false] at hb
        rcases hb with rfl | rfl | rfl <;>
          exact isPlain_ofNat (by omega) (by omega) (by omega) (by omega)
      · simp only [List.mem_cons, List.not_mem_nil, or_false] at hb
        rcases hb with rfl | rfl | rfl | rfl <;>
          exact isPlain_ofNat (by omega) (by omega) (by omega) (by omega)

theorem unescape?_cons {b : UInt8} (h : b ≠ 0x5C) (rest : Bytes) :
    unescape? (b :: rest) = (unescape? rest).map (b :: ·) :=
  unescape?.eq_5 b rest (fun _ _ _ _ _ hb _ => h hb) fun _ _ hb _ => h hb

/-- The digits of a code point that is no surrogate stand for its character. -/
theorem unescape?_digits {a b c d : UInt8}
    (h : hexValue4 a b c d < 0xD800 ∨ 0xDFFF < hexValue4 a b c d) (rest : Bytes) :
    unescape? (0x5C :: 0x75 :: a :: b :: c :: d :: rest) =
      (unescape? rest).map (encodeCodePoint (hexValue4 a b c d) ++ ·) := by
  have high : ¬ (0xDC00 ≤ hexValue4 a b c d ∧ hexValue4 a b c d ≤ 0xDFFF) := by omega
  have low : ¬ (0xD800 ≤ hexValue4 a b c d ∧ hexValue4 a b c d ≤ 0xDBFF) := by omega
  rw [unescape?.eq_def]
  exact (if_neg high).trans (if_neg low)

/-- The digits of two surrogates stand for one character. -/
theorem unescape?_pair {a b c d e f g h : UInt8} {n : Nat} (hn : n < 0x100000)
    (high : hexValue4 a b c d = 0xD800 + n / 0x400) (low : hexValue4 e f g h = 0xDC00 + n % 0x400)
    (rest : Bytes) :
    unescape? (0x5C :: 0x75 :: a :: b :: c :: d :: 0x5C :: 0x75 :: e :: f :: g :: h :: rest) =
      (unescape? rest).map (encodeCodePoint (0x10000 + n) ++ ·) := by
  have first : ¬ (0xDC00 ≤ hexValue4 a b c d ∧ hexValue4 a b c d ≤ 0xDFFF) ∧
      (0xD800 ≤ hexValue4 a b c d ∧ hexValue4 a b c d ≤ 0xDBFF) := by omega
  have second : 0xDC00 ≤ hexValue4 e f g h ∧ hexValue4 e f g h ≤ 0xDFFF := by omega
  have code : 0x10000 + (hexValue4 a b c d - 0xD800) * 0x400 + (hexValue4 e f g h - 0xDC00) =
      0x10000 + n := by omega
  rw [unescape?.eq_def]
  refine (if_neg first.1).trans ((if_pos first.2).trans ((if_pos second).trans ?_))
  rw [code]

theorem unescape?_plain (bs rest : Bytes) (h : ∀ b ∈ bs, IsPlain b) :
    unescape? (bs ++ rest) = (unescape? rest).map (bs ++ ·) := by
  induction bs with
  | nil => simp
  | cons b bs ih =>
    have hb : b ≠ 0x5C := (h b List.mem_cons_self).2.1
    have hrest := ih fun b' hb' => h b' (List.mem_cons_of_mem b hb')
    rw [List.cons_append, unescape?_cons hb, hrest, Option.map_map]
    rfl

theorem hexValue_hexDigitByte : ∀ n < 16, hexValue (hexDigitByte n) = n := by decide

theorem isHexDigit_hexDigitByte : ∀ n < 16, isHexDigit (hexDigitByte n) = true := by decide

/-- What may stand between two quotes: bytes that stand for themselves, and escapes. The digits of a
surrogate need not be followed by those of another one. -/
inductive RawText : Bytes → Prop
  | nil : RawText []
  | plain {b : UInt8} {raw : Bytes} (h : IsPlain b) (rest : RawText raw) : RawText (b :: raw)
  | letter {e : UInt8} {raw : Bytes} (he : e ∈ [0x22, 0x5C, 0x2F, 0x62, 0x66, 0x6E, 0x72, 0x74])
      (rest : RawText raw) : RawText (0x5C :: e :: raw)
  | digits {p q r s : UInt8} {raw : Bytes} (hex : ∀ b ∈ [p, q, r, s], isHexDigit b = true)
      (rest : RawText raw) : RawText (0x5C :: 0x75 :: p :: q :: r :: s :: raw)

theorem RawText.plains {bs raw : Bytes} (h : ∀ b ∈ bs, IsPlain b) (rest : RawText raw) :
    RawText (bs ++ raw) := by
  induction bs with
  | nil => exact rest
  | cons b bs ih =>
    exact .plain (h b List.mem_cons_self) (ih fun b' hb' => h b' (List.mem_cons_of_mem b hb'))

/-- A text ends at the quote behind it. -/
theorem RawText.scanText {raw : Bytes} (h : RawText raw) (rest : Bytes) :
    Json.scanText .plain (raw ++ 0x22 :: rest) = some (raw, rest) := by
  induction h with
  | nil => rfl
  | plain h _ ih =>
    obtain ⟨hquote, hslash, hlow⟩ := h
    simp [Json.scanText, TextPlace.next, hquote, hslash, UInt8.not_lt.mpr hlow, ih]
  | letter he _ ih =>
    simp only [List.mem_cons, List.not_mem_nil, or_false] at he
    rcases he with rfl | rfl | rfl | rfl | rfl | rfl | rfl | rfl <;>
      simp [Json.scanText, TextPlace.next, ih]
  | digits hex _ ih =>
    simp only [List.forall_mem_cons] at hex
    obtain ⟨hp, hq, hr, hs, -⟩ := hex
    simp [Json.scanText, TextPlace.next, hp, hq, hr, hs, ih]

/-- The ways to write a character within a text: as it is, as a letter behind a backslash, as the
digits of its code point, or as those of two surrogates. -/
inductive Escaped (c : Char) : Bytes → Prop
  | plain (hquote : c ≠ '"') (hslash : c ≠ '\\') (hcontrol : 0x20 ≤ c.toNat) :
      Escaped c (String.utf8EncodeChar c)
  | letter {e : UInt8} (he : e ∈ [0x22, 0x5C, 0x2F, 0x62, 0x66, 0x6E, 0x72, 0x74])
      (hc : String.utf8EncodeChar c = [shortEscape e]) : Escaped c [0x5C, e]
  | digits {p q r s : UInt8} (hex : ∀ b ∈ [p, q, r, s], isHexDigit b = true)
      (hc : hexValue4 p q r s = c.toNat) : Escaped c [0x5C, 0x75, p, q, r, s]
  | pair {p q r s p' q' r' s' : UInt8} {n : Nat}
      (hex : ∀ b ∈ [p, q, r, s, p', q', r', s'], isHexDigit b = true)
      (high : hexValue4 p q r s = 0xD800 + n / 0x400)
      (low : hexValue4 p' q' r' s' = 0xDC00 + n % 0x400) (hc : c.toNat = 0x10000 + n) :
      Escaped c [0x5C, 0x75, p, q, r, s, 0x5C, 0x75, p', q', r', s']

theorem escaped_escapeChar (c : Char) : Escaped c (escapeChar c) := by
  have code : ∀ n, c.toNat = n → c = Char.ofNat n := fun n h => h ▸ (Char.ofNat_toNat c).symm
  unfold escapeChar
  split
  · next h => exact .letter (by decide) (by rw [h]; decide)
  · next hquote =>
    split
    · next h => exact .letter (by decide) (by rw [h]; decide)
    · next hslash =>
      split
      · next h => exact .letter (by decide) (by rw [code _ h]; decide)
      · split
        · next h => exact .letter (by decide) (by rw [code _ h]; decide)
        · split
          · next h => exact .letter (by decide) (by rw [code _ h]; decide)
          · split
            · next h => exact .letter (by decide) (by rw [code _ h]; decide)
            · split
              · next h => exact .letter (by decide) (by rw [code _ h]; decide)
              · split
                · next h =>
                  refine .digits ?_ ?_
                  · have hhigh := isHexDigit_hexDigitByte (c.toNat / 16) (by omega)
                    have hrest := isHexDigit_hexDigitByte (c.toNat % 16) (by omega)
                    have hzero : isHexDigit 0x30 = true := rfl
                    simp [hzero, hhigh, hrest]
                  · have hzero : hexValue 0x30 = 0 := rfl
                    have hhigh := hexValue_hexDigitByte (c.toNat / 16) (by omega)
                    have hrest := hexValue_hexDigitByte (c.toNat % 16) (by omega)
                    unfold hexValue4
                    rw [hzero, hhigh, hrest]
                    omega
                · next h => exact .plain hquote hslash (Nat.not_lt.mp h)

section
variable {c : Char} {piece : Bytes} (h : Escaped c piece) (rest : Bytes)
include h

theorem Escaped.unescape? :
    Json.unescape? (piece ++ rest) = (Json.unescape? rest).map (String.utf8EncodeChar c ++ ·) := by
  have hcode : encodeCodePoint c.toNat = String.utf8EncodeChar c := by
    unfold encodeCodePoint
    rw [Char.ofNat_toNat]
  cases h with
  | plain hquote hslash hcontrol =>
    exact unescape?_plain _ rest fun b => isPlain_of_mem hquote hslash hcontrol
  | letter he hc =>
    rw [hc]
    simp only [List.mem_cons, List.not_mem_nil, or_false] at he
    rcases he with rfl | rfl | rfl | rfl | rfl | rfl | rfl | rfl <;> simp [Json.unescape?]
  | digits hex hc =>
    have hvalid : c.toNat < 0xD800 ∨ 0xDFFF < c.toNat := by
      rcases c.valid with hlow | hhigh
      · exact .inl hlow
      · exact .inr hhigh.1
    rw [← hc] at hvalid hcode
    rw [← hcode]
    exact unescape?_digits hvalid rest
  | @pair p q r s p' q' r' s' n hex high low hc =>
    have hmax : c.toNat < 0x110000 := by
      rcases c.valid with hlow | hhigh
      · exact Nat.lt_trans hlow (by decide)
      · exact hhigh.2
    rw [hc] at hcode
    rw [← hcode]
    exact unescape?_pair (by omega) high low rest

end

theorem Escaped.rawText {c : Char} {piece raw : Bytes} (h : Escaped c piece) (rest : RawText raw) :
    RawText (piece ++ raw) := by
  cases h with
  | plain hquote hslash hcontrol =>
    exact .plains (fun b => isPlain_of_mem hquote hslash hcontrol) rest
  | letter he => exact .letter he rest
  | digits hex => exact .digits hex rest
  | @pair p q r s p' q' r' s' _ hex =>
    have high : ∀ b ∈ [p, q, r, s], isHexDigit b = true := fun b hb =>
      hex b (List.mem_append_left [p', q', r', s'] hb)
    have low : ∀ b ∈ [p', q', r', s'], isHexDigit b = true := fun b hb =>
      hex b (List.mem_append_right [p, q, r, s] hb)
    exact .digits high (.digits low rest)

/-- A text is written character by character. -/
inductive Spelled : List Char → Bytes → Prop
  | nil : Spelled [] []
  | cons {c : Char} {cs : List Char} {piece raw : Bytes} (first : Escaped c piece)
      (rest : Spelled cs raw) : Spelled (c :: cs) (piece ++ raw)

theorem spelled_encodeText (s : String) : Spelled s.toList (encodeText s) := by
  unfold encodeText
  induction s.toList with
  | nil => exact .nil
  | cons c cs ih => exact .cons (escaped_escapeChar c) ih

/-- The escapes of a text are resolved into the text. -/
theorem Spelled.decodeText? {s : String} {raw : Bytes} (h : Spelled s.toList raw) :
    Json.decodeText? raw = some s := by
  have unescaped : ∀ {cs raw}, Spelled cs raw →
      Json.unescape? raw = some (cs.flatMap String.utf8EncodeChar) := by
    intro cs raw h
    induction h with
    | nil => rfl
    | cons first _ ih =>
      rw [first.unescape?, ih]
      rfl
  unfold Json.decodeText?
  rw [unescaped h]
  exact (Bytes.text?_utf8 s.toList).trans (congrArg some String.ofList_toList)

theorem Spelled.rawText {cs : List Char} {raw : Bytes} (h : Spelled cs raw) : RawText raw := by
  induction h with
  | nil => exact .nil
  | cons first _ ih => exact first.rawText ih

@[simp] theorem decodeText?_encodeText (s : String) : decodeText? (encodeText s) = some s :=
  (spelled_encodeText s).decodeText?

end Json
end Courier
