import TensorShader.Operator.Param
import TensorShader.Subroutine.Instance
import TensorShader.Tensor.Shape
import TensorShader.Template.Fault

/-! Why a kernel cannot be produced. Each error holds its cause, and `Error.message` words it. -/

namespace TensorShader

/-- How the binding of an instance disagrees with its subroutine. -/
inductive BindingFault where
  /-- A bound subroutine without a binding. -/
  | missing
  /-- An unbound subroutine with a binding. -/
  | superfluous
  /-- A bound subroutine on which an unbound one depends. -/
  | notInherited
deriving DecidableEq, Repr

def BindingFault.message : BindingFault → String
  | .missing => "requires a tensor binding"
  | .superfluous => "does not take a tensor binding"
  | .notInherited => "needed by an unbound subroutine, no binding to inherit"

/-- Why the source of a subroutine or an operator cannot be rendered. -/
inductive RenderFault where
  | template (fault : Template.Fault)
  | missingParam (name : String)
  | notInteger (name : String) (value : Param)
  /-- A split axis that names no dimension. -/
  | axisOutside (axis : Int)
  /-- A slice that does not lie inside the input. -/
  | sliceOutside (extent : Nat) (offset : Int) (available : Nat) (axis : Axis)
deriving DecidableEq, Repr

def RenderFault.message : RenderFault → String
  | .template fault => fault.message
  | .missingParam name => "missing parameter `" ++ name ++ "`"
  | .notInteger name value =>
    "parameter `" ++ name ++ "` must be an integer, got " ++ value.display
  | .axisOutside axis => "axis " ++ toString axis ++ " is outside [-4, 4)"
  | .sliceOutside extent offset available axis =>
    "slice of " ++ toString extent ++ " at offset " ++ toString offset ++
      " exceeds input extent " ++ toString available ++ " on axis " ++ toString axis.index

/-- Why a kernel cannot be produced. -/
inductive Error where
  | invalidShape (fault : ShapeError)
  | unknownSubroutine (name : String)
  | bindingMismatch (name : String) (fault : BindingFault)
  /-- Subroutine instances each of which needs the next one, from an instance back to itself. -/
  | subroutineCycle (path : List Subroutine.Instance)
  | duplicateSubroutine (name : String)
  | operatorNotFound (name : String)
  | duplicateOperator (name : String)
  /-- The source of the named subroutine instance or operator cannot be rendered. -/
  | unrenderable (name : String) (fault : RenderFault)
  | missingOperand (operator operand : String)
  | unboundOperand (binding : String)
  | textureTooLarge (width height limit : Nat)
  /-- A coordinate has a component that does not fit in 32 bits. -/
  | coordinateOutside (p : Nchw Int)
deriving DecidableEq, Repr

def Error.message : Error → String
  | .invalidShape e =>
    "invalid tensor shape " ++ Shape.bracketed e.dims ++ ": " ++ e.fault.message
  | .unknownSubroutine name => "unknown subroutine `" ++ name ++ "`"
  | .bindingMismatch name fault => "subroutine `" ++ name ++ "`: " ++ fault.message
  | .subroutineCycle path =>
    "subroutine dependency cycle: " ++ " -> ".intercalate (path.map (·.display))
  | .duplicateSubroutine name => "subroutine `" ++ name ++ "` is already registered"
  | .operatorNotFound name => "operator `" ++ name ++ "` not found"
  | .duplicateOperator name => "operator `" ++ name ++ "` is already registered"
  | .unrenderable name fault => "failed to render `" ++ name ++ "`: " ++ fault.message
  | .missingOperand op operand =>
    "operator `" ++ op ++ "` has no shape for operand `" ++ operand ++ "`"
  | .unboundOperand binding => "no layout bound to `" ++ binding ++ "`"
  | .textureTooLarge width height limit =>
    "texture " ++ toString width ++ "x" ++ toString height ++ " exceeds the " ++ toString limit ++
      " texel limit"
  | .coordinateOutside p =>
    "precondition violated: coordinate " ++ Shape.bracketed p.toList ++
      " is outside the addressable range"

end TensorShader
