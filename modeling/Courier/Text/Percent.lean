import Courier.Text.Bytes

/-! Percent signs followed by two hexadecimal digits, each of which stands for a byte. -/
namespace Courier.Percent

def hexDigit? (b : UInt8) : Option UInt8 :=
  if 48 ≤ b ∧ b ≤ 57 then some (b - 48)
  else if 65 ≤ b ∧ b ≤ 70 then some (b - 55)
  else if 97 ≤ b ∧ b ≤ 102 then some (b - 87)
  else none

/-- Puts the bytes meant in their places; a percent sign without two digits stands for itself. -/
def decode : Bytes → Bytes
  | [] => []
  | 37 :: a :: b :: rest =>
    match hexDigit? a, hexDigit? b with
    | some x, some y => (16 * x + y) :: decode rest
    | _, _ => 37 :: decode (a :: b :: rest)
  | b :: rest => b :: decode rest

end Courier.Percent
