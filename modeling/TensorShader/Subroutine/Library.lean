import TensorShader.Error
import TensorShader.Registry

/-! Shader subroutines, and libraries of them. A bound subroutine is specialized for an operand, and
so are the bound subroutines that it depends on. An unbound one exists once. -/

namespace TensorShader

/-- A piece of shader source that operators share, as a template, and the names of the subroutines
that have to come before it. -/
structure Subroutine where
  name : String
  bound : Bool
  deps : List String
  template : String
deriving DecidableEq, Repr

/-- The subroutines that operators may ask for, by name. -/
abbrev Library := Registry Subroutine

namespace Library

/-- Registration of a subroutine under its name. -/
def register (lib : Library) (s : Subroutine) : Except Error Unit × Library :=
  Registry.register lib s.name s (.duplicateSubroutine s.name)

/-- The subroutine of an instance, which has a binding exactly if the subroutine is bound. -/
def lookup (lib : Library) (i : Subroutine.Instance) : Except Error Subroutine :=
  match lib.find? i.name with
  | none => .error (.unknownSubroutine i.name)
  | some s =>
    match s.bound, i.binding with
    | true, none => .error (.bindingMismatch i.name .missing)
    | false, some _ => .error (.bindingMismatch i.name .superfluous)
    | _, _ => .ok s

/-- The instance of the subroutine `name` that an instance depends on. A bound one takes over its
binding. -/
def dependency (lib : Library) (i : Subroutine.Instance) (name : String) :
    Except Error Subroutine.Instance :=
  match lib.find? name with
  | none => .error (.unknownSubroutine name)
  | some s =>
    match s.bound, i.binding with
    | false, _ => .ok ⟨name, none⟩
    | true, some key => .ok ⟨name, some key⟩
    | true, none => .error (.bindingMismatch name .notInherited)

end Library

end TensorShader
