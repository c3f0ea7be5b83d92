import TensorShader.Template.Number

/-! The values that templates compute with: their kinds, their parts, and their truth. -/

namespace TensorShader.Template

/-- The kinds of values, in the order in which values of different kinds compare. -/
inductive Kind where
  | undefined | none | bool | number | string | sequence | map | iterable | function
deriving DecidableEq, Repr

def Kind.name : Kind → String
  | .undefined => "undefined"
  | .none => "none"
  | .bool => "bool"
  | .number => "number"
  | .string => "string"
  | .sequence => "sequence"
  | .map => "map"
  | .iterable => "iterator"
  | .function => "plain object"

def Kind.rank : Kind → Nat
  | .undefined => 0
  | .none => 1
  | .bool => 2
  | .number => 3
  | .string => 4
  | .sequence => 5
  | .map => 6
  | .iterable => 7
  | .function => 8

/-- A value in a template. A missing name or attribute is `undefined`, which is not `none`. The
fields of a map have different names, and they are written and compared in their order. An
`iterable` is what an operator makes of sequences. A `function` is known by its name only: a
template can mention it, but not call it. -/
inductive Value where
  | undefined
  | none
  | bool (b : Bool)
  | number (x : Number)
  | string (s : String)
  | sequence (items : List Value)
  | map (fields : List (String × Value))
  | iterable (items : List Value)
  | function (name : String)
deriving Repr

instance : Inhabited Value := ⟨.undefined⟩

namespace Value

@[match_pattern] abbrev float (x : Binary64) : Value := .number (.float x)

@[match_pattern] abbrev int (format : IntFormat) (i : Int) : Value := .number (.int ⟨i, format⟩)

def kind : Value → Kind
  | .undefined => .undefined
  | .none => .none
  | .bool _ => .bool
  | .number _ => .number
  | .string _ => .string
  | .sequence _ => .sequence
  | .map _ => .map
  | .iterable _ => .iterable
  | .function _ => .function

/-- The value under a name, if this is a map that has the name. -/
def field? : Value → String → Option Value
  | .map fields, name => fields.lookup name
  | _, _ => Option.none

/-- The value under a name, if this is a map that has the name; otherwise `undefined`. -/
def field (v : Value) (name : String) : Value := (v.field? name).getD .undefined

/-- The item at an index, if this is a sequence, an iterable, or a string, whose items are its
characters; otherwise `undefined`. -/
def item (v : Value) (index : Nat) : Value :=
  match v with
  | .sequence items | .iterable items => items.getD index .undefined
  | .string s => ((s.toList[index]?).map fun c => .string (.singleton c)).getD .undefined
  | _ => .undefined

/-- Whether a value counts as true: false, none, the zeros, and what is empty do not. -/
def isTruthy : Value → Bool
  | .undefined | .none => false
  | .bool b => b
  | .number x => !x.isZero
  | .string s => decide (s ≠ "")
  | .sequence items | .iterable items => !items.isEmpty
  | .map fields => !fields.isEmpty
  | .function _ => true

/-- The number that a value is in arithmetic: a truth value counts as 0 or 1. -/
def number? : Value → Option Number
  | .number x => some x
  | .bool b => some (.int ⟨if b then 1 else 0, .unsigned64⟩)
  | _ => Option.none

end Value

/-- The functions that a template can mention when its context has no value of that name. -/
def functionNames : List String := ["debug", "dict", "namespace", "range"]

def Value.resolve (ctx : Value) (name : String) : Value :=
  (ctx.field? name).getD (if name ∈ functionNames then .function name else .undefined)

end TensorShader.Template
