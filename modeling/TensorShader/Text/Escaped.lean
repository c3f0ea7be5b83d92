import TensorShader.Text.Hidden

/-! Texts between quotes, in which every character can be seen. -/

namespace TensorShader

/-- A character between quotes: some have escapes of their own, and a hidden one is written by its
code. -/
def escapedChar (c : Char) : List Char :=
  match c with
  | '\x00' => ['\\', '0']
  | '\t' => ['\\', 't']
  | '\n' => ['\\', 'n']
  | '\r' => ['\\', 'r']
  | '"' => ['\\', '"']
  | '\\' => ['\\', '\\']
  | c =>
    if isHidden c then ['\\', 'u', '\x7b'] ++ Nat.toDigits 16 c.toNat ++ ['\x7d'] else [c]

def quoted (s : String) : String := .ofList ('"' :: s.toList.flatMap escapedChar ++ ['"'])

end TensorShader
