import TensorShader.Number.Binary64

/-! The fewest decimal digits that identify a floating-point number. A finite number is scaled by
`10^1074`, which makes it an integer; the integers that round to the same number form an interval
around it. For 1, 2, … 17 digits, the two neighbours of the scaled number with that many digits are
tested, and the first grid with a neighbour inside the interval gives the digits. -/

namespace TensorShader

/-- Decimal digits after a point that stands at `point`: the value is `0.digits · 10^point`. -/
structure Decimal where
  digits : List Char
  point : Int
deriving DecidableEq, Repr

namespace Binary64

/-- A magnitude's value times `10^1074`. -/
def scaled (m : Nat) : Nat := unitsOf m * Nat.pow 5 1074

/-- Whether a value times `10^1074` rounds to the magnitude `m`: it lies between the midpoints to
the neighbours of `m`, and on one of them only if `m` is even. -/
def roundsTo (m v : Nat) : Bool :=
  let lower := scaled (m - 1) + scaled m
  let upper := scaled m + scaled (m + 1)
  if m % 2 = 0 then decide (lower ≤ 2 * v) && decide (2 * v ≤ upper)
  else decide (lower < 2 * v) && decide (2 * v < upper)

/-- Of the two neighbours of a magnitude's scaled value on a grid, the one that rounds to the
magnitude; of two, the nearer one, and the upper one if both are as near. -/
def neighbour? (m step : Nat) : Option Nat :=
  let v := scaled m
  let below := v / step * step
  let above := below + step
  if roundsTo m below && (!roundsTo m above || decide (v - below < above - v)) then some below
  else if roundsTo m above then some above
  else none

def digitCount (v : Nat) : Nat := (Nat.toDigits 10 v).length

/-- The scaled value with the fewest digits that rounds to a magnitude. -/
def shortestScaled (m : Nat) : Nat :=
  let count := digitCount (scaled m)
  ((List.range 17).findSome? fun i => neighbour? m (Nat.pow 10 (count - (i + 1)))).getD (scaled m)

def dropTrailingZeros (ds : List Char) : List Char :=
  (ds.reverse.dropWhile (· == '0')).reverse

/-- The fewest digits that identify a magnitude. -/
def shortest (m : Nat) : Decimal :=
  let ds := Nat.toDigits 10 (shortestScaled m)
  ⟨dropTrailingZeros ds, ds.length - 1074⟩

end Binary64

end TensorShader
