import TensorShader.Template.Value
import TensorShader.Text.Escaped

/-! The texts of values. A string or number that a template writes stands as it is; inside a
sequence or a map, strings are quoted and numbers are written as literals. -/

namespace TensorShader.Template.Value

def boolText (b : Bool) : String := if b then "True" else "False"

/-- The text of a function: its full name. -/
def functionText (name : String) : String := "minijinja::functions::builtins::" ++ name

def nestedText : Value → String
  | .undefined => "undefined"
  | .none => "None"
  | .bool b => boolText b
  | .number x => x.text .literal
  | .string s => quoted s
  | .sequence items | .iterable items => "[" ++ ", ".intercalate (itemTexts items) ++ "]"
  | .map fields => "\x7b" ++ ", ".intercalate (fieldTexts fields) ++ "\x7d"
  | .function name => functionText name
where
  itemTexts : List Value → List String
    | [] => []
    | v :: vs => nestedText v :: itemTexts vs
  fieldTexts : List (String × Value) → List String
    | [] => []
    | (name, v) :: fs => (quoted name ++ ": " ++ nestedText v) :: fieldTexts fs

def text : Value → String
  | .undefined => ""
  | .string s => s
  | .number x => x.text .positional
  | v => v.nestedText

end TensorShader.Template.Value
