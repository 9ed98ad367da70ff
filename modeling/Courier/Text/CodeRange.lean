/-! Sets of characters, given as runs of code points. -/
namespace Courier.Text

/-- Every `step`-th code point from `first` to `last`. -/
structure CodeRange where
  first : Nat
  last : Nat
  step : Nat

def CodeRange.contains (r : CodeRange) (c : Char) : Bool :=
  r.first ≤ c.toNat && c.toNat ≤ r.last && (c.toNat - r.first) % r.step == 0

def inRanges (rs : List CodeRange) (c : Char) : Bool := rs.any (·.contains c)

end Courier.Text
