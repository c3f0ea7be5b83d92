import TensorShader.NameMap
import TensorShader.Template.Value

/-! The parameters of an operator: scalar values under names. -/

namespace TensorShader

/-- A scalar that is written into shader source. Floating-point numbers are told apart by their
bits. -/
inductive Param where
  | int (i : Int)
  | float (x : Binary64)
  | bool (b : Bool)
deriving DecidableEq, Repr

namespace Param

def asInt? : Param → Option Int
  | .int i => some i
  | _ => none

/-- A parameter in messages: its type, and its value in parentheses. -/
def display : Param → String
  | .int i => "Int(" ++ toString i ++ ")"
  | .float x => "Float(" ++ x.text .literal ++ ")"
  | .bool b => "Bool(" ++ (if b then "true" else "false") ++ ")"

def value : Param → Template.Value
  | .int i => .int .signed64 i
  | .float x => .float x
  | .bool b => .bool b

end Param

/-- The parameters of one use of an operator. -/
abbrev Params := NameMap Param

end TensorShader
