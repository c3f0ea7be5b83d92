import TensorShader.Tensor.Nchw

/-! Tensor shapes: four extents of 32 bits, read from a list of one to four dimensions. -/

namespace TensorShader

/-- Numbers below this bound fit in 32 bits: `2^32`. -/
def wordBound : Nat := 4294967296

/-- Why dimensions do not describe a tensor that a texture or an operator can hold. -/
inductive ShapeFault where
  /-- The number of dimensions is not between 1 and 4. -/
  | rank
  /-- A dimension is not below `wordBound`. -/
  | extentTooLarge
  /-- An extent is zero. -/
  | emptyExtent
  /-- A texture extent is not below `wordBound`. -/
  | textureOverflow
  /-- The unclamped operand of an elementwise operator is not shaped like the output. -/
  | elementwiseMismatch
  /-- A slice differs from its input outside the axis that is split. -/
  | splitMismatch
deriving DecidableEq, Repr

def ShapeFault.message : ShapeFault → String
  | .rank => "expected between 1 and 4 dimensions"
  | .extentTooLarge => "dimension does not fit in 32 bits"
  | .emptyExtent => "every dimension must be at least 1"
  | .textureOverflow => "texture extent overflows 32 bits"
  | .elementwiseMismatch => "elementwise operand X must match the output shape"
  | .splitMismatch => "split output differs from its input outside the split axis"

/-- A shape fault and the dimensions that have it. -/
structure ShapeError where
  dims : List Nat
  fault : ShapeFault
deriving DecidableEq, Repr

/-- The extents of a tensor. An extent may be zero; a texture layout excludes that. -/
structure Shape extends Nchw UInt32
deriving DecidableEq, Repr

namespace Shape

def dims (s : Shape) : Nchw Nat := s.toNchw.map UInt32.toNat

def scalar : Shape := ⟨⟨1, 1, 1, 1⟩⟩

/-- The number of elements, counted in 64 bits: a larger product is reduced by multiples of
`2^64`. -/
def numel (s : Shape) : UInt64 := (s.toNchw.toList.map UInt32.toUInt64).foldl (· * ·) 1

/-- Every extent is at least 1. -/
def Nonempty (s : Shape) : Prop := ∀ d : Axis, 0 < s.dims.get d

/-- The shape with the extents of `dims`, an extent of 1 standing for each leading dimension that
is missing. -/
def ofDims (dims : List Nat) : Except ShapeError Shape :=
  match dims with
  | [w] => build 1 1 1 w
  | [h, w] => build 1 1 h w
  | [c, h, w] => build 1 c h w
  | [n, c, h, w] => build n c h w
  | _ => .error ⟨dims, .rank⟩
where
  build (n c h w : Nat) : Except ShapeError Shape :=
    if n < wordBound ∧ c < wordBound ∧ h < wordBound ∧ w < wordBound then
      .ok ⟨⟨.ofNat n, .ofNat c, .ofNat h, .ofNat w⟩⟩
    else
      .error ⟨dims, .extentTooLarge⟩

/-- The text of a list of numbers, in brackets. -/
def bracketed {α : Type} [ToString α] (xs : List α) : String :=
  "[" ++ ", ".intercalate (xs.map toString) ++ "]"

/-- The extents in brackets, outermost first. -/
def display (s : Shape) : String := bracketed s.dims.toList

theorem toNat_numel (s : Shape) :
    s.numel.toNat = s.dims.n * s.dims.c * s.dims.h * s.dims.w % 18446744073709551616 := by
  simp [numel, dims, Nchw.toList, Nchw.map, Nchw.ofFn, Nchw.get]

theorem dims_get_lt (s : Shape) (d : Axis) : s.dims.get d < wordBound := by
  simpa [dims, wordBound] using UInt32.toNat_lt (s.toNchw.get d)

theorem nonempty_iff (s : Shape) :
    s.Nonempty ↔ 0 < s.dims.n ∧ 0 < s.dims.c ∧ 0 < s.dims.h ∧ 0 < s.dims.w :=
  ⟨fun h => ⟨h .n, h .c, h .h, h .w⟩, fun ⟨hn, hc, hh, hw⟩ d => by cases d <;> assumption⟩

instance (s : Shape) : Decidable s.Nonempty := decidable_of_iff _ s.nonempty_iff.symm

theorem ext_dims {s t : Shape} (h : s.dims = t.dims) : s = t := by
  have hd : ∀ d, s.toNchw.get d = t.toNchw.get d := fun d =>
    UInt32.toNat_inj.mp (by simpa [dims] using congrArg (·.get d) h)
  cases s; cases t
  exact congrArg Shape.mk (Nchw.ext_get hd)

end Shape

end TensorShader
