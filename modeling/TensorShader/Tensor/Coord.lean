import TensorShader.Error

/-! Element coordinates, and how the coordinate of an output element is clamped into the shape of
a smaller operand. The same rule is available as a function on coordinates, `Coord.broadcast`, and
as the arguments of a shader call, `Alignment.readArgs`. -/

namespace TensorShader

/-- The coordinate of an element of a tensor. -/
abbrev Coord := Nchw Nat

/-- The coordinate with the given components, if each of them fits in 32 bits. -/
def Coord.ofInts (p : Nchw Int) : Except Error Coord :=
  if ∀ v ∈ p.toList, 0 ≤ v ∧ v < wordBound then .ok (p.map Int.toNat)
  else .error (.coordinateOutside p)

/-- The dimension at which a smaller operand starts to line up with the output. The operand is read
at index 0 in each dimension before it. -/
inductive Alignment where
  /-- Every dimension lines up. -/
  | whole
  /-- Channels, rows and columns line up. -/
  | channel
  /-- Rows and columns line up. -/
  | row
  /-- Columns line up. -/
  | column
deriving DecidableEq, Repr

namespace Alignment

/-- The alignment that an operator's `axis` parameter asks for. -/
def ofParam (axis : Int) : Alignment :=
  if axis = 1 then .channel else if axis = 2 then .row else if axis = 3 then .column else .whole

/-- The number of leading dimensions read at index 0. -/
def leading : Alignment → Nat
  | .whole => 0
  | .channel => 1
  | .row => 2
  | .column => 3

/-- The arguments of a shader call that reads an operand at the coordinate in the vector `var`. -/
def readArgs (a : Alignment) (var : String) : String :=
  ", ".intercalate (Axis.all.map fun d =>
    if d.index < a.leading then "0" else var ++ "." ++ d.lane)

end Alignment

/-- The coordinate at which an operand of shape `target` is read for the output element at `p`:
index 0 in the leading dimensions of `a`, and in the others the nearest index inside `target`. -/
def Coord.broadcast (p : Coord) (target : Shape) (a : Alignment) : Coord :=
  Nchw.ofFn fun d =>
    if d.index < a.leading then 0 else min (p.get d) (target.dims.get d - 1)

theorem Coord.get_broadcast (p : Coord) (target : Shape) (a : Alignment) (d : Axis) :
    (p.broadcast target a).get d =
      if d.index < a.leading then 0 else min (p.get d) (target.dims.get d - 1) :=
  Nchw.get_ofFn _ d

end TensorShader
