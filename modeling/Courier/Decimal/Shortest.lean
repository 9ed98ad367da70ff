import Courier.Decimal.Binary64

/-! The shortest decimal that reads back as a given binary64 number. -/
namespace Courier.Decimal

/-- The number `coefficient * 10 ^ exponent`. -/
structure Scientific where
  coefficient : Nat
  exponent : Int
  deriving DecidableEq, Inhabited

/-- A ratio of whole numbers, compared by cross multiplication. -/
structure Ratio where
  num : Nat
  den : Nat

def Ratio.le (a b : Ratio) : Bool := a.num * b.den ≤ b.num * a.den

def Ratio.lt (a b : Ratio) : Bool := a.num * b.den < b.num * a.den

def Ratio.ofBinary (m : Nat) (e : Int) : Ratio := ⟨m * Nat.pow 2 e.toNat, Nat.pow 2 (-e).toNat⟩

def Ratio.ofDecimal (c : Nat) (k : Int) : Ratio := ⟨c * Nat.pow 10 k.toNat, Nat.pow 10 (-k).toNat⟩

/-- The real numbers that round to `x` lie between these two. -/
def Binary64.bounds (x : Binary64) : Ratio × Ratio :=
  let below := if x.mantissa = Nat.pow 2 52 ∧ -1074 < x.exponent then 1 else 2
  (.ofBinary (4 * x.mantissa - below) (x.exponent - 2),
    .ofBinary (4 * x.mantissa + 2) (x.exponent - 2))

/-- A decimal rounds to `x`; the ends of the interval do if the mantissa is even. -/
def Binary64.accepts (x : Binary64) (d : Ratio) : Bool :=
  let (low, high) := x.bounds
  if x.mantissa % 2 = 0 then low.le d && d.le high else low.lt d && d.lt high

/-- The greatest `k` with `10 ^ k ≤ x`, for a positive `x`. -/
def Binary64.log10 (x : Binary64) : Int :=
  let v : Ratio := .ofBinary x.mantissa x.exponent
  let guess := Binary64.log2Ratio x.num x.den * 30103 / 100000
  if (Ratio.ofDecimal 1 (guess + 1)).le v then guess + 1
  else if v.lt (.ofDecimal 1 guess) then guess - 1
  else guess

/-- The better of the two neighbours of `x` among the multiples of `10 ^ k`, if one rounds to
`x`. -/
def Binary64.neighbour? (x : Binary64) (k : Int) : Option Scientific :=
  let den := x.den * Nat.pow 10 k.toNat
  let num := x.num * Nat.pow 10 (-k).toNat
  let c := num / den
  let r := num % den
  let low := x.accepts (.ofDecimal c k)
  let high := x.accepts (.ofDecimal (c + 1) k)
  let preferLow := 2 * r < den || (2 * r == den && c % 2 == 0)
  if low && (preferLow || !high) then some ⟨c, k⟩
  else if high then some ⟨c + 1, k⟩
  else none

/-- Drops the zeros at the end of a coefficient, at most `fuel` of them. -/
def Scientific.dropZeros : Nat → Scientific → Scientific
  | 0, d => d
  | fuel + 1, d =>
    if d.coefficient ≠ 0 ∧ d.coefficient % 10 = 0 then
      dropZeros fuel ⟨d.coefficient / 10, d.exponent + 1⟩
    else d

/-- The shortest decimal that rounds to `x`, the nearest of those; 17 digits always do. -/
def Binary64.shortest (x : Binary64) : Scientific :=
  let top := x.log10
  let found := (List.range 17).findSome? fun n : Nat => x.neighbour? (top - n)
  (found.getD ⟨0, 0⟩).dropZeros 17

/-- An exponent always has a sign. -/
def exponentText (e : Int) : List Char :=
  if 0 ≤ e then '+' :: (toString e).toList else (toString e).toList

/-- How a decimal is written: from `10 ^ -5` up to `10 ^ 16` with a point and at least one place,
beyond that with one digit in front of the point and a power of ten. -/
def Scientific.text (d : Scientific) : String :=
  let digits := Nat.toDigits 10 d.coefficient
  let point : Int := digits.length + d.exponent
  let zeros (n : Int) : List Char := List.replicate n.toNat '0'
  String.ofList <|
    if 0 ≤ d.exponent ∧ point ≤ 16 then digits ++ zeros d.exponent ++ ['.', '0']
    else if 0 < point ∧ point ≤ 16 then digits.take point.toNat ++ '.' :: digits.drop point.toNat
    else if -5 < point ∧ point ≤ 0 then '0' :: '.' :: zeros (-point) ++ digits
    else
      let whole := digits.take 1
      let places := digits.drop 1
      whole ++ (if places.isEmpty then [] else '.' :: places) ++
        'e' :: exponentText (point - 1)

/-- The text of `x`, which reads back as `x`. -/
def Binary64.text (x : Binary64) : String :=
  if x.mantissa = 0 then "0.0" else x.shortest.text

end Courier.Decimal
