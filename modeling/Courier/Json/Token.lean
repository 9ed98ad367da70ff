import Courier.Json.Number

/-! The tokens of a document. -/
namespace Courier.Json

/-- `text` holds the bytes between the quotes, `junk` stands for the first byte that starts no
token and all that follows. -/
inductive Token where
  | openBrace
  | closeBrace
  | openBracket
  | closeBracket
  | comma
  | colon
  | null
  | bool (b : Bool)
  | numeral (n : Numeral)
  | text (raw : Bytes)
  | junk
  deriving DecidableEq, Inhabited

def isSpace (b : UInt8) : Bool := b == 0x20 || b == 0x0A || b == 0x0D || b == 0x09

def isDigit (b : UInt8) : Bool := 0x30 ≤ b && b ≤ 0x39

def isHexDigit (b : UInt8) : Bool :=
  isDigit b || (0x41 ≤ b && b ≤ 0x46) || (0x61 ≤ b && b ≤ 0x66)

/-- The digits at the start, with what follows. -/
def scanDigits (bs : Bytes) : List Nat × Bytes :=
  ((bs.takeWhile isDigit).map fun b => b.toNat - 0x30, bs.dropWhile isDigit)

/-- A point needs a digit behind it. -/
def scanFraction : Bytes → Option (List Nat × Bytes)
  | 0x2E :: rest =>
    let (ds, after) := scanDigits rest
    if ds.isEmpty then none else some (ds, after)
  | bs => some ([], bs)

def scanSign : Bytes → Bool × Bytes
  | 0x2B :: rest => (false, rest)
  | 0x2D :: rest => (true, rest)
  | bs => (false, bs)

/-- An exponent needs a digit, too. -/
def scanExponent : Bytes → Option (Option (Bool × List Nat) × Bytes)
  | [] => some (none, [])
  | b :: rest =>
    if b = 0x65 ∨ b = 0x45 then
      let (minus, unsigned) := scanSign rest
      let (ds, after) := scanDigits unsigned
      if ds.isEmpty then none else some (some (minus, ds), after)
    else some (none, b :: rest)

/-- A zero stands alone in front of the point. -/
def scanNumeral (negative : Bool) (bs : Bytes) : Option (Numeral × Bytes) := do
  let (whole, afterWhole) := scanDigits bs
  if whole.isEmpty || (whole.head? == some 0 && whole.length != 1) then none
  else
    let (fraction, afterFraction) ← scanFraction afterWhole
    let (exponent, rest) ← scanExponent afterFraction
    some (⟨negative, whole, fraction, exponent⟩, rest)

/-- Where a text is read: at a plain character, behind a backslash, or with so many digits of an
escaped code point to come. -/
inductive TextPlace where
  | plain
  | escaped
  | digits (left : Nat)

/-- What the byte `b` leads to: nothing if it may not stand here, the end of the text, or the next
place. -/
def TextPlace.next (b : UInt8) : TextPlace → Option (Option TextPlace)
  | .plain =>
    if b = 0x22 then some none
    else if b = 0x5C then some (some .escaped)
    else if b < 0x20 then none
    else some (some .plain)
  | .escaped =>
    if b = 0x75 then some (some (.digits 4))
    else if b ∈ [0x22, 0x5C, 0x2F, 0x62, 0x66, 0x6E, 0x72, 0x74] then some (some .plain)
    else none
  | .digits left =>
    if isHexDigit b then some (some (if left ≤ 1 then .plain else .digits (left - 1))) else none

/-- The bytes up to the closing quote, and what follows it. -/
def scanText (place : TextPlace) : Bytes → Option (Bytes × Bytes)
  | [] => none
  | b :: rest =>
    match place.next b with
    | none => none
    | some none => some ([], rest)
    | some (some next) => (scanText next rest).map fun (raw, after) => (b :: raw, after)

/-- Reads the token at the start. -/
def scan : Bytes → Option (Token × Bytes)
  | [] => none
  | b :: rest =>
    if b = 0x7B then some (.openBrace, rest)
    else if b = 0x7D then some (.closeBrace, rest)
    else if b = 0x5B then some (.openBracket, rest)
    else if b = 0x5D then some (.closeBracket, rest)
    else if b = 0x2C then some (.comma, rest)
    else if b = 0x3A then some (.colon, rest)
    else if b = 0x22 then (scanText .plain rest).map fun (raw, after) => (.text raw, after)
    else if b = 0x2D then (scanNumeral true rest).map fun (n, after) => (.numeral n, after)
    else if isDigit b then (scanNumeral false (b :: rest)).map fun (n, after) => (.numeral n, after)
    else match b, rest with
      | 0x6E, 0x75 :: 0x6C :: 0x6C :: after => some (.null, after)
      | 0x74, 0x72 :: 0x75 :: 0x65 :: after => some (.bool true, after)
      | 0x66, 0x61 :: 0x6C :: 0x73 :: 0x65 :: after => some (.bool false, after)
      | _, _ => none

theorem length_scanDigits (bs : Bytes) :
    (scanDigits bs).2.length + (scanDigits bs).1.length = bs.length := by
  have h := congrArg List.length (List.takeWhile_append_dropWhile (p := isDigit) (l := bs))
  simp only [List.length_append] at h
  simp only [scanDigits, List.length_map]
  omega

theorem length_scanFraction {bs after : Bytes} {ds : List Nat}
    (h : scanFraction bs = some (ds, after)) : after.length ≤ bs.length := by
  unfold scanFraction at h
  split at h
  · next rest =>
    have hl := length_scanDigits rest
    dsimp only at h
    split at h
    · simp at h
    · simp only [Option.some.injEq, Prod.mk.injEq] at h
      obtain ⟨-, rfl⟩ := h
      simp only [List.length_cons]
      omega
  · simp only [Option.some.injEq, Prod.mk.injEq] at h
    obtain ⟨-, rfl⟩ := h
    exact Nat.le_refl _

theorem length_scanSign (bs : Bytes) : (scanSign bs).2.length ≤ bs.length := by
  unfold scanSign
  split <;> simp

theorem length_scanExponent {bs after : Bytes} {e : Option (Bool × List Nat)}
    (h : scanExponent bs = some (e, after)) : after.length ≤ bs.length := by
  cases bs with
  | nil => simp_all [scanExponent]
  | cons b rest =>
    have hs := length_scanSign rest
    have hl := length_scanDigits (scanSign rest).2
    simp only [scanExponent] at h
    split at h
    · split at h
      · simp at h
      · simp only [Option.some.injEq, Prod.mk.injEq] at h
        obtain ⟨-, rfl⟩ := h
        simp only [List.length_cons]
        omega
    · simp only [Option.some.injEq, Prod.mk.injEq] at h
      obtain ⟨-, rfl⟩ := h
      exact Nat.le_refl _

theorem length_scanNumeral {negative : Bool} {bs after : Bytes} {n : Numeral}
    (h : scanNumeral negative bs = some (n, after)) : after.length < bs.length := by
  have hl := length_scanDigits bs
  simp only [scanNumeral] at h
  split at h
  · simp at h
  · next hw =>
    cases hf : scanFraction (scanDigits bs).2 with
    | none => simp [hf] at h
    | some p =>
      obtain ⟨fraction, afterFraction⟩ := p
      cases he : scanExponent afterFraction with
      | none => simp [hf, he] at h
      | some q =>
        obtain ⟨exponent, rest⟩ := q
        have h1 := length_scanFraction hf
        have h2 := length_scanExponent he
        simp only [hf, he, Option.bind_eq_bind, Option.bind_some, Option.some.injEq,
          Prod.mk.injEq] at h
        obtain ⟨-, rfl⟩ := h
        have h3 : (scanDigits bs).1 ≠ [] := by
          intro hn
          simp [hn] at hw
        have h4 := List.length_pos_iff.mpr h3
        omega

theorem length_scanText {place : TextPlace} {bs raw after : Bytes}
    (h : scanText place bs = some (raw, after)) : after.length < bs.length := by
  induction bs generalizing place raw with
  | nil => simp [scanText] at h
  | cons b rest ih =>
    simp only [scanText] at h
    split at h
    · simp at h
    · simp only [Option.some.injEq, Prod.mk.injEq] at h
      obtain ⟨-, rfl⟩ := h
      simp
    · next next _ =>
      cases hs : scanText next rest with
      | none => simp [hs] at h
      | some p =>
        obtain ⟨raw', after'⟩ := p
        simp only [hs, Option.map_some, Option.some.injEq, Prod.mk.injEq] at h
        obtain ⟨-, rfl⟩ := h
        have := ih hs
        simp only [List.length_cons]
        omega

/-- A token is not empty. -/
theorem length_scan {bs after : Bytes} {t : Token} (h : scan bs = some (t, after)) :
    after.length < bs.length := by
  cases bs with
  | nil => simp [scan] at h
  | cons b rest =>
    simp only [scan] at h
    repeat' split at h
    all_goals
      first
      | (simp only [Option.some.injEq, Prod.mk.injEq] at h
         obtain ⟨-, rfl⟩ := h
         simp only [List.length_cons]
         omega)
      | (simp only [Option.map_eq_some_iff, Prod.mk.injEq, Prod.exists] at h
         obtain ⟨x, y, hx, -, rfl⟩ := h
         first
         | (have shorter := length_scanText hx; simp only [List.length_cons]; omega)
         | (have shorter := length_scanNumeral hx; simp only [List.length_cons] at *; omega))
      | simp at h

/-- The tokens of a text; the blanks between them are left out. -/
def tokens (bs : Bytes) : List Token :=
  match _hs : scan (bs.dropWhile isSpace) with
  | some (t, after) => t :: tokens after
  | none => if (bs.dropWhile isSpace).isEmpty then [] else [.junk]
termination_by bs.length
decreasing_by
  have h1 := length_scan _hs
  have h2 := (List.dropWhile_suffix (l := bs) isSpace).length_le
  omega

end Courier.Json
