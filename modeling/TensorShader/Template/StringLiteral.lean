import TensorShader.Template.Token
import TensorShader.Text.Digits

/-! How strings are written in templates: between quotes, with escapes for single characters and for
codes in base 8 or 16. What is not an escape stands for itself, with its backslash. -/

namespace TensorShader.Template

/-- What an escaped character stands for, alone. -/
def escapeOf? : Char → Option (List Char)
  | 'b' => some ['\x08']
  | 'f' => some ['\x0c']
  | 'n' => some ['\n']
  | 'r' => some ['\r']
  | 't' => some ['\t']
  | 'u' | 'x' => none
  | c => some (if c ∈ ['"', '\'', '\\', '/'] then [c] else ['\\', c])

/-- The code that hexadecimal digits write, of which the first may be a plus sign instead. -/
def hexCode? : List Char → Option Nat
  | '+' :: ds | ds =>
    if !ds.isEmpty && ds.all (isDigitIn 16) then some (digitsValue 16 ds) else none

/-- What the escape at the start of the characters after a backslash stands for, and its length. A
code above `0xffff` is escaped as a pair of halves. -/
def readEscape? : List Char → Option (List Char × Nat)
  | 'u' :: a :: b :: c :: d :: rest =>
    match hexCode? [a, b, c, d] with
    | none => none
    | some high =>
      if 0xd800 ≤ high ∧ high < 0xdc00 then
        match rest with
        | '\\' :: 'u' :: a :: b :: c :: d :: _ =>
          match hexCode? [a, b, c, d] with
          | none => none
          | some low =>
            if 0xdc00 ≤ low ∧ low < 0xe000 then
              some ([Char.ofNat (0x10000 + (high - 0xd800) * 0x400 + (low - 0xdc00))], 11)
            else none
        | _ => none
      else (scalar? high).map fun x => ([x], 5)
  | 'x' :: a :: b :: _ => (hexCode? [a, b]).map fun n => ([Char.ofNat n], 3)
  | c :: cs =>
    if isDigitIn 8 c then
      let ds := c :: (cs.take 2).takeWhile (isDigitIn 8)
      let n := digitsValue 8 ds
      if n < 256 then some ([Char.ofNat n], ds.length) else none
    else (escapeOf? c).map fun xs => (xs, 1)
  | [] => none

/-- The characters of a string with its escapes replaced, after the first `skip` of them. -/
def unescape : (skip : Nat) → List Char → Option (List Char)
  | _, [] => some []
  | skip + 1, _ :: cs => unescape skip cs
  | 0, '\\' :: cs => (readEscape? cs).bind fun e => (unescape e.2 cs).map (e.1 ++ ·)
  | 0, c :: cs => (unescape 0 cs).map (c :: ·)

def stringToken (cs : List Char) : Token :=
  match unescape 0 cs with
  | some s => .string (.ofList s) (!cs.contains '\\')
  | none => .fault .stringEscape

end TensorShader.Template
