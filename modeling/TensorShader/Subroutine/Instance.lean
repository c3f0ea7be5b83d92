/-! Instances of subroutines: a name, and the operand that the subroutine is specialized for, if it
takes one. -/

namespace TensorShader.Subroutine

/-- A subroutine by its name, and the binding of the operand it is specialized for. -/
structure Instance where
  name : String
  binding : Option String
deriving DecidableEq, Repr

namespace Instance

def ident (i : Instance) : String :=
  match i.binding with
  | some key => i.name ++ "_" ++ key
  | none => i.name

def display (i : Instance) : String :=
  match i.binding with
  | some key => i.name ++ "<" ++ key ++ ">"
  | none => i.name

end Instance

end TensorShader.Subroutine
