import TensorShader.Error
import TensorShader.NameMap
import TensorShader.Texture.Layout

/-! The layouts of one kernel: that of its output, and those of its operands by their bindings. A
table holds any records. -/

namespace TensorShader

/-- The layout of an output, and layouts under bindings. -/
structure LayoutTable where
  output : LayoutRecord
  inputs : NameMap LayoutRecord
deriving DecidableEq

namespace LayoutTable

def ofOutput (output : LayoutRecord) : LayoutTable := ⟨output, .empty⟩

/-- The table with a layout under a binding instead of what was there. -/
def bind (t : LayoutTable) (key : String) (l : LayoutRecord) : LayoutTable :=
  { t with inputs := t.inputs.insert key l }

def get (t : LayoutTable) (key : String) : Except Error LayoutRecord :=
  match t.inputs.find? key with
  | some l => .ok l
  | none => .error (.unboundOperand key)

/-- The layout that an instance is specialized for: its operand's, or without one the output's. -/
def layoutOf (t : LayoutTable) (i : Subroutine.Instance) : Except Error LayoutRecord :=
  match i.binding with
  | some key => t.get key
  | none => .ok t.output

end LayoutTable

end TensorShader
