/-! White space: the characters with the Unicode property of that name, and those of them that are
ASCII. -/

namespace TensorShader

def isBlank (c : Char) : Bool :=
  let n := c.toNat
  (9 ≤ n && n ≤ 13) || n == 0x20 || n == 0x85 || n == 0xa0 || n == 0x1680 ||
    (0x2000 ≤ n && n ≤ 0x200a) || n == 0x2028 || n == 0x2029 || n == 0x202f || n == 0x205f ||
    n == 0x3000

/-- Whether a character is white space between the tokens of a tag: a space, tab, line feed, form
feed, or carriage return. -/
def isAsciiBlank (c : Char) : Bool :=
  c == ' ' || c == '\t' || c == '\n' || c == '\x0c' || c == '\r'

def isLineEnd (c : Char) : Bool := c == '\n' || c == '\r'

end TensorShader
