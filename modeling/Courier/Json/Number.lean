import Courier.Decimal.Shortest
import Courier.Text.Bytes

/-! Numbers: as they are written, and their values. -/
namespace Courier.Json

/-- A number as written. `fraction` is empty if there is no point; `exponent` holds its sign (true
for a minus) and its digits. -/
structure Numeral where
  negative : Bool
  whole : List Nat
  fraction : List Nat
  exponent : Option (Bool × List Nat)
  deriving DecidableEq, Inhabited

/-- A whole number within 64 bits, signed or not, or a binary64 number with its sign. -/
inductive Number where
  | int (n : Int)
  | real (negative : Bool) (magnitude : Decimal.Binary64)
  deriving DecidableEq, Inhabited

def wordMax : Nat := 18446744073709551615

/-- Appends digits to `n` while it stays within 64 bits; gives the digits that are left, too. -/
def appendDigits (n : Nat) : List Nat → Nat × List Nat
  | [] => (n, [])
  | d :: ds => if wordMax < n * 10 + d then (n, d :: ds) else appendDigits (n * 10 + d) ds

def digitsValue (ds : List Nat) : Nat := ds.foldl (fun n d => n * 10 + d) 0

/-- The magnitude of `significand * 10 ^ exponent` with a written exponent added, if that is
finite. -/
def scaled? (significand : Nat) (exponent : Int) (written : Option (Bool × List Nat)) :
    Option Decimal.Binary64 := do
  let x ← Decimal.Binary64.ofNat? significand
  match written with
  | none => x.scaleTen? exponent
  | some (minus, ds) =>
    let e := digitsValue ds
    if 2147483647 < e then if significand = 0 || minus then some .zero else none
    else x.scaleTen? (if minus then exponent - e else exponent + e)

/-- The value of a numeral. Without point, exponent and overflow it is a whole number, except for a
negative zero. Otherwise the digits that fit in 64 bits count, and the result is scaled by a power
of ten; there is none if it is not finite. -/
def Numeral.value? (n : Numeral) : Option Number :=
  let (w, left) := appendDigits 0 n.whole
  let real (x : Option Decimal.Binary64) : Option Number := x.map (.real n.negative)
  if left.isEmpty && n.fraction.isEmpty && n.exponent.isNone then
    if !n.negative then some (.int w)
    else if 0 < w ∧ w ≤ 9223372036854775808 then some (.int (-w))
    else real (scaled? w 0 none)
  else
    let (s, unread) := appendDigits w n.fraction
    real (scaled? s ((left.length : Int) - (n.fraction.length - unread.length)) n.exponent)

/-- The decimal digits of `n`, the first one first. -/
def decimalDigits (n : Nat) : List Nat :=
  if n < 10 then [n] else decimalDigits (n / 10) ++ [n % 10]

def digitByte (d : Nat) : UInt8 := UInt8.ofNat (0x30 + d)

def Number.bytes : Number → Bytes
  | .int n => (if n < 0 then [0x2D] else []) ++ (decimalDigits n.natAbs).map digitByte
  | .real negative x => (if negative then [0x2D] else []) ++ Bytes.ofString x.text

/-- Equality of values: a zero equals a negative zero. -/
def Number.same : Number → Number → Bool
  | .int a, .int b => a = b
  | .real na a, .real nb b => a = b && (na = nb || a.mantissa = 0)
  | _, _ => false

end Courier.Json
