import TensorShader.Texture.LayoutTable

/-! Shapes and layouts as values that templates read. -/

namespace TensorShader

open Template (Value)

/-- A natural number in a template. -/
def natValue (n : Nat) : Value := .int .unsigned64 n

/-- A shape in a template: its extents by the names of the dimensions. -/
def Shape.value (s : Shape) : Value :=
  .map [("n", natValue s.dims.n), ("c", natValue s.dims.c), ("h", natValue s.dims.h),
    ("w", natValue s.dims.w)]

def LayoutRecord.value (l : LayoutRecord) : Value :=
  .map [("shape", l.shape.value), ("packing", .string l.packing.name),
    ("width", natValue l.width.toNat), ("height", natValue l.height.toNat),
    ("layers", natValue l.layers.toNat), ("pack_ratio", natValue l.packRatio.toNat)]

def NameMap.value {α : Type} (m : NameMap α) (f : α → Value) : Value :=
  .map (m.entries.map fun e => (e.1, f e.2))

end TensorShader
