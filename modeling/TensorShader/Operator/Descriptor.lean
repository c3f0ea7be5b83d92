import TensorShader.Subroutine.Instance

/-! What an operator declares: its operands, its parameters, and the subroutines it calls. -/

namespace TensorShader

/-- An operand: its name, and the binding that subroutines are specialized for. -/
structure Operand where
  name : String
  binding : String
deriving DecidableEq, Repr

/-- The declaration of an operator. -/
structure Descriptor where
  name : String
  inputs : List Operand
  /-- The parameters that have to be given. -/
  params : List String
  /-- Subroutine instances that the operator calls. -/
  deps : List Subroutine.Instance
  /-- For bindings, the bound subroutines that the operator calls. -/
  bindingDeps : List (String × List String)
  /-- Whether an operand is read through the broadcast that the parameter `axis` asks for. -/
  broadcasts : Bool
deriving DecidableEq, Repr

namespace Descriptor

/-- The names of the operands, in order. -/
def inputNames (d : Descriptor) : List String := d.inputs.map (·.name)

/-- The subroutine instances that the operator calls, in the order of their declaration. -/
def requests (d : Descriptor) : List Subroutine.Instance :=
  d.deps ++ d.bindingDeps.flatMap fun (key, names) => names.map fun name => ⟨name, some key⟩

end Descriptor

end TensorShader
