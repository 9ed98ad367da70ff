/-! Finite binary64 numbers as exact ratios, with rounding to the nearest one, ties to even. -/
namespace Courier.Decimal

/-- The whole number nearest to `num / den`; halfway between two, the even one. -/
def roundEven (num den : Nat) : Nat :=
  let q := num / den
  let r := num % den
  if 2 * r < den then q else if den < 2 * r then q + 1 else q + q % 2

/-- The number `mantissa * 2 ^ exponent`. -/
structure Binary64 where
  mantissa : Nat
  exponent : Int
  deriving DecidableEq, Inhabited

namespace Binary64

def zero : Binary64 := ⟨0, -1074⟩

def num (x : Binary64) : Nat := x.mantissa * Nat.pow 2 x.exponent.toNat

def den (x : Binary64) : Nat := Nat.pow 2 (-x.exponent).toNat

/-- The greatest `l` with `2 ^ l ≤ num / den`, for a positive ratio. -/
def log2Ratio (num den : Nat) : Int :=
  let l : Int := (num.log2 : Int) - den.log2
  if den * Nat.pow 2 l.toNat ≤ num * Nat.pow 2 (-l).toNat then l else l - 1

/-- The number nearest to `num / den`, unless that is beyond the finite ones. -/
def ofRatio? (num den : Nat) : Option Binary64 :=
  if num = 0 then some zero
  else
    let e := max (-1074) (log2Ratio num den - 52)
    let m := roundEven (num * Nat.pow 2 (-e).toNat) (den * Nat.pow 2 e.toNat)
    let x : Binary64 := if m = Nat.pow 2 53 then ⟨Nat.pow 2 52, e + 1⟩ else ⟨m, e⟩
    if x.exponent ≤ 971 then some x else none

def ofNat? (n : Nat) : Option Binary64 := ofRatio? n 1

def mul? (x y : Binary64) : Option Binary64 := ofRatio? (x.num * y.num) (x.den * y.den)

def div? (x y : Binary64) : Option Binary64 := ofRatio? (x.num * y.den) (x.den * y.num)

/-- The number nearest to `10 ^ k`, for `k` up to 308. -/
def powTen (k : Nat) : Binary64 := (ofNat? (Nat.pow 10 k)).getD zero

/-- Divides `n` times by `10 ^ 308`, as long as anything is left. -/
def shrink? : Nat → Binary64 → Option Binary64
  | 0, x => some x
  | n + 1, x => if x.mantissa = 0 then some x else (x.div? (powTen 308)).bind (shrink? n)

/-- Multiplies `x` by `10 ^ k`, rounding once for a `k` of at most 308 either way and once more for
every 308 places that `k` is lower. There is no result beyond the finite numbers. -/
def scaleTen? (x : Binary64) (k : Int) : Option Binary64 :=
  if 308 < k then if x.mantissa = 0 then some x else none
  else if 0 ≤ k then x.mul? (powTen k.toNat)
  else
    let places := (-k).toNat
    let strides := (places + 307) / 308 - 1
    (x.shrink? strides).bind (·.div? (powTen (places - 308 * strides)))

end Binary64
end Courier.Decimal
