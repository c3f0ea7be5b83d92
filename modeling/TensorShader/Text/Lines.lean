/-! Texts given by their lines. -/

namespace TensorShader

/-- The text of lines, each with a line feed at its end. -/
def lines : List String → String
  | [] => ""
  | l :: ls => l ++ "\n" ++ lines ls

end TensorShader
