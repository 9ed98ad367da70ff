/-! Bytes and the texts they encode. -/
namespace Courier

abbrev Bytes := List UInt8

namespace Bytes

def ofString (s : String) : Bytes := s.toUTF8.data.toList

/-- The text that `b` encodes in UTF-8, if it is well formed. -/
def text? (b : Bytes) : Option String := String.fromUTF8? ⟨b.toArray⟩

/-- How many bytes follow the lead byte `b` of a character beyond ASCII. -/
def tailLength? (b : Nat) : Option Nat :=
  if 0xC2 ≤ b ∧ b ≤ 0xDF then some 1
  else if 0xE0 ≤ b ∧ b ≤ 0xEF then some 2
  else if 0xF0 ≤ b ∧ b ≤ 0xF4 then some 3
  else none

/-- The bytes that may come second after `lead`: overlong forms, surrogates and code points beyond
the last one are left out. -/
def isSecond (lead b : Nat) : Bool :=
  (if lead = 0xE0 then 0xA0 else if lead = 0xF0 then 0x90 else 0x80) ≤ b &&
    b ≤ (if lead = 0xED then 0x9F else if lead = 0xF4 then 0x8F else 0xBF)

def isContinuation (b : UInt8) : Bool := 0x80 ≤ b.toNat && b.toNat ≤ 0xBF

/-- The part of a character's tail, at most `n` bytes, that `rest` starts with. -/
def tail (lead n : Nat) : Bytes → Bytes
  | [] => []
  | b :: rest =>
    if 0 < n ∧ isSecond lead b.toNat then b :: (rest.take (n - 1)).takeWhile isContinuation else []

/-- The code point of a character with this lead byte and tail. -/
def codePoint (lead : Nat) (tail : Bytes) : Nat :=
  tail.foldl (fun n b => n * 64 + b.toNat % 64) (lead % Nat.pow 2 (6 - tail.length))

/-- Reads `b` as UTF-8, with one replacement character for each longest part that starts no
character. -/
def lossyChars : Bytes → List Char
  | [] => []
  | b :: rest =>
    if b.toNat < 0x80 then Char.ofNat b.toNat :: lossyChars rest
    else match tailLength? b.toNat with
      | none => '\uFFFD' :: lossyChars rest
      | some n =>
        let found := tail b.toNat n rest
        let c := if found.length = n then Char.ofNat (codePoint b.toNat found) else '\uFFFD'
        c :: lossyChars (rest.drop found.length)
termination_by b => b.length
decreasing_by all_goals simp only [List.length_cons, List.length_drop]; omega

def lossyText (b : Bytes) : String := String.ofList (lossyChars b)

end Bytes
end Courier
