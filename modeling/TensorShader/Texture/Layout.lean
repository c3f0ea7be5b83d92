import TensorShader.Tensor.Shape

/-! How a tensor lies on a texture. Rows of all batches are stacked in the texture's height. The
channels are either layers of an array texture or stand side by side in one wide texture. A
`LayoutRecord` holds any numbers for this. A `Layout` is a record whose numbers are those of its
shape; there is one only for a tensor without empty extents whose texture extents fit in 32 bits. -/

namespace TensorShader

/-- Where the channels of a tensor go on its texture. -/
inductive Packing where
  /-- One array layer for each channel. -/
  | plain
  /-- Side by side in a single layer. -/
  | channelMajor
deriving DecidableEq, Repr

namespace Packing

def name : Packing → String
  | .plain => "plain"
  | .channelMajor => "channel_major"

def ofName? : String → Option Packing
  | "plain" => some .plain
  | "channel_major" => some .channelMajor
  | _ => none

def width (p : Packing) (s : Shape) : Nat :=
  match p with
  | .plain => s.dims.w
  | .channelMajor => s.dims.w * s.dims.c

def layers (p : Packing) (s : Shape) : Nat :=
  match p with
  | .plain => s.dims.c
  | .channelMajor => 1

/-- The sampler type that fetches from a texture with this packing. -/
def sampler : Packing → String
  | .plain => "sampler2DArray"
  | .channelMajor => "sampler2D"

end Packing

/-- A tensor shape and the extents of a texture. -/
structure LayoutRecord where
  shape : Shape
  packing : Packing
  width : UInt32
  /-- Rows of texels. -/
  height : UInt32
  layers : UInt32
  /-- How many batches are stacked in the height. -/
  packRatio : UInt32
deriving DecidableEq, Repr

def LayoutRecord.sampler (l : LayoutRecord) : String := l.packing.sampler

/-- A tensor shape placed on a texture. -/
structure Layout extends LayoutRecord where
  nonempty : shape.Nonempty
  width_eq : width.toNat = packing.width shape
  /-- The rows are those of all batches. -/
  height_eq : height.toNat = shape.dims.h * shape.dims.n
  layers_eq : layers.toNat = packing.layers shape
  packRatio_eq : packRatio = height / shape.h
deriving DecidableEq

instance : Coe Layout LayoutRecord := ⟨Layout.toLayoutRecord⟩

namespace Layout

/-- The layout of a shape whose texture fits. -/
def ofFits (shape : Shape) (packing : Packing) (nonempty : shape.Nonempty)
    (height_lt : shape.dims.h * shape.dims.n < wordBound)
    (width_lt : packing.width shape < wordBound) : Layout where
  shape
  packing
  width := .ofNat (packing.width shape)
  height := .ofNat (shape.dims.h * shape.dims.n)
  layers := .ofNat (packing.layers shape)
  packRatio := .ofNat (shape.dims.h * shape.dims.n) / shape.h
  nonempty
  width_eq := UInt32.toNat_ofNat_of_lt width_lt
  height_eq := UInt32.toNat_ofNat_of_lt height_lt
  layers_eq := by
    cases packing with
    | plain => exact UInt32.toNat_ofNat_of_lt (shape.dims_get_lt .c)
    | channelMajor => rfl
  packRatio_eq := rfl

/-- The layout of a shape, if its extents are at least 1 and its texture fits. -/
def of (shape : Shape) (packing : Packing) : Except ShapeError Layout :=
  if nonempty : shape.Nonempty then
    if fits : shape.dims.h * shape.dims.n < wordBound ∧ packing.width shape < wordBound then
      .ok (ofFits shape packing nonempty fits.1 fits.2)
    else
      .error ⟨shape.dims.toList, .textureOverflow⟩
  else
    .error ⟨shape.dims.toList, .emptyExtent⟩

theorem height_lt (l : Layout) : l.shape.dims.h * l.shape.dims.n < wordBound := by
  rw [← l.height_eq]
  exact l.height.toNat_lt

theorem width_lt (l : Layout) : l.packing.width l.shape < wordBound := by
  rw [← l.width_eq]
  exact l.width.toNat_lt

/-- A batch of the texture is one of the tensor. -/
theorem toNat_packRatio (l : Layout) : l.packRatio.toNat = l.shape.dims.n := by
  have hpos : 0 < l.shape.dims.h := l.nonempty .h
  have hdiv : l.packRatio.toNat = l.height.toNat / l.shape.dims.h := by
    rw [l.packRatio_eq, UInt32.toNat_div]
    rfl
  rw [hdiv, l.height_eq, Nat.mul_div_cancel_left _ hpos]

/-- A shape has one layout for each packing. -/
theorem ext_shape {l m : Layout} (hshape : l.shape = m.shape) (hpacking : l.packing = m.packing) :
    l = m := by
  have hwidth : l.width = m.width := by
    rw [← UInt32.toNat_inj, l.width_eq, m.width_eq, hshape, hpacking]
  have hheight : l.height = m.height := by
    rw [← UInt32.toNat_inj, l.height_eq, m.height_eq, hshape]
  have hlayers : l.layers = m.layers := by
    rw [← UInt32.toNat_inj, l.layers_eq, m.layers_eq, hshape, hpacking]
  have hratio : l.packRatio = m.packRatio := by
    rw [l.packRatio_eq, m.packRatio_eq, hheight, hshape]
  obtain ⟨⟨⟩⟩ := l
  obtain ⟨⟨⟩⟩ := m
  cases hshape; cases hpacking; cases hwidth; cases hheight; cases hlayers; cases hratio
  rfl

end Layout

end TensorShader
