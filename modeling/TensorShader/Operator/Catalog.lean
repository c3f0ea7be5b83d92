import TensorShader.Operator.Builtin

/-! Catalogs: operators by name. -/

namespace TensorShader

/-- Operators under names, which need not be the names that they declare. -/
abbrev Catalog := Registry Operator

namespace Catalog

/-- Registration of an operator under any name. -/
def registerAs (c : Catalog) (name : String) (op : Operator) : Except Error Unit × Catalog :=
  Registry.register c name op (.duplicateOperator name)

/-- Registration of an operator under the name that it declares. -/
def register (c : Catalog) (op : Operator) : Except Error Unit × Catalog :=
  c.registerAs op.descriptor.name op

/-- Registration of operators under names, one after the other, up to the first that fails. -/
def registerAll (c : Catalog) : List (String × Operator) → Except Error Unit × Catalog
  | [] => (.ok (), c)
  | (name, op) :: ops =>
    match c.registerAs name op with
    | (.ok (), c) => c.registerAll ops
    | (.error e, c) => (.error e, c)

/-- The operators that come with the library, under the names that they declare. -/
def inventory : List (String × Operator) :=
  Operator.builtins.map fun op => (op.descriptor.name, op.toOperator)

def lookup (c : Catalog) (name : String) : Except Error Operator :=
  match c.find? name with
  | some op => .ok op
  | none => .error (.operatorNotFound name)

/-- The operators that come with the library. -/
def builtin : Catalog := (registerAll .empty inventory).2

end Catalog

end TensorShader
