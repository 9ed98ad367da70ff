import Courier.Json.Token

/-! The texts of a document: between their quotes, some characters are escaped. -/
namespace Courier.Json

def hexValue (b : UInt8) : Nat :=
  if b ≤ 0x39 then b.toNat - 0x30 else if b ≤ 0x46 then b.toNat - 0x37 else b.toNat - 0x57

def hexValue4 (a b c d : UInt8) : Nat :=
  ((hexValue a * 16 + hexValue b) * 16 + hexValue c) * 16 + hexValue d

/-- The character that a letter behind a backslash stands for. -/
def shortEscape (b : UInt8) : UInt8 :=
  if b = 0x62 then 0x08
  else if b = 0x66 then 0x0C
  else if b = 0x6E then 0x0A
  else if b = 0x72 then 0x0D
  else if b = 0x74 then 0x09
  else b

def encodeCodePoint (n : Nat) : Bytes := String.utf8EncodeChar (Char.ofNat n)

/-- Resolves the escapes. A surrogate must be the first of a pair. -/
def unescape? : Bytes → Option Bytes
  | [] => some []
  | 0x5C :: 0x75 :: a :: b :: c :: d :: rest =>
    let u := hexValue4 a b c d
    if 0xDC00 ≤ u ∧ u ≤ 0xDFFF then none
    else if 0xD800 ≤ u ∧ u ≤ 0xDBFF then
      match rest with
      | 0x5C :: 0x75 :: e :: f :: g :: h :: rest =>
        let v := hexValue4 e f g h
        if 0xDC00 ≤ v ∧ v ≤ 0xDFFF then
          let n := 0x10000 + (u - 0xD800) * 0x400 + (v - 0xDC00)
          (unescape? rest).map (encodeCodePoint n ++ ·)
        else none
      | _ => none
    else (unescape? rest).map (encodeCodePoint u ++ ·)
  | 0x5C :: e :: rest => (unescape? rest).map (shortEscape e :: ·)
  | b :: rest => (unescape? rest).map (b :: ·)

/-- The text between two quotes, if it is well formed. -/
def decodeText? (raw : Bytes) : Option String := (unescape? raw).bind Bytes.text?

def hexDigitByte (n : Nat) : UInt8 :=
  if n < 10 then UInt8.ofNat (0x30 + n) else UInt8.ofNat (0x57 + n)

/-- Quotes, backslashes and control characters are escaped, the latter by a letter where there is
one. -/
def escapeChar (c : Char) : Bytes :=
  if c = '"' then [0x5C, 0x22]
  else if c = '\\' then [0x5C, 0x5C]
  else if c.toNat = 0x08 then [0x5C, 0x62]
  else if c.toNat = 0x0C then [0x5C, 0x66]
  else if c.toNat = 0x0A then [0x5C, 0x6E]
  else if c.toNat = 0x0D then [0x5C, 0x72]
  else if c.toNat = 0x09 then [0x5C, 0x74]
  else if c.toNat < 0x20 then
    [0x5C, 0x75, 0x30, 0x30, hexDigitByte (c.toNat / 16), hexDigitByte (c.toNat % 16)]
  else String.utf8EncodeChar c

def encodeText (s : String) : Bytes := s.toList.flatMap escapeChar

/-- `s` between quotes. -/
def textBytes (s : String) : Bytes := 0x22 :: encodeText s ++ [0x22]

end Courier.Json
