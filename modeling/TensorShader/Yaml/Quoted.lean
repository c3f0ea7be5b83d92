import TensorShader.Text.Digits
import TensorShader.Yaml.Scalar

/-! Quoted scalars. Between single quotes a quote is written twice; between double quotes there are
escapes. Lines are folded, and their blanks at line ends are dropped. -/

namespace TensorShader.Yaml

/-- The two kinds of quotes. -/
inductive Quote where
  | single | double
deriving DecidableEq, Repr

def Quote.ofChar? : Char → Option Quote
  | '\'' => some .single
  | '"' => some .double
  | _ => none

/-- The content up to the closing quote on a line, and the text after it. -/
def Quote.close? : Quote → List Char → Option (List Char × List Char)
  | _, [] => none
  | .single, '\'' :: '\'' :: cs => (close? .single cs).map fun r => ('\'' :: '\'' :: r.1, r.2)
  | .single, '\'' :: cs => some ([], cs)
  | .double, '\\' :: c :: cs => (close? .double cs).map fun r => ('\\' :: c :: r.1, r.2)
  | .double, '"' :: cs => some ([], cs)
  | q, c :: cs => (close? q cs).map fun r => (c :: r.1, r.2)

/-- The lines of the content up to the closing quote, and the text after it. -/
def Quote.lines? (q : Quote) : Line → List Line → Option (List Line × Rest)
  | line, later =>
    match q.close? line.text with
    | some (content, rest) => some ([⟨line.lead, content⟩], ⟨rest, later⟩)
    | none =>
      match later with
      | [] => none
      | l :: ls =>
        if (marker? l.text).isSome then none
        else (lines? q l ls).map fun r => (line :: r.1, r.2)

def escapeOf? : Char → Option Char
  | '0' => some '\x00'
  | 'a' => some '\x07'
  | 'b' => some '\x08'
  | 't' | '\t' => some '\t'
  | 'n' => some '\n'
  | 'v' => some '\x0b'
  | 'f' => some '\x0c'
  | 'r' => some '\r'
  | 'e' => some '\x1b'
  | ' ' => some ' '
  | '"' => some '"'
  | '/' => some '/'
  | '\\' => some '\\'
  | 'N' => some '\u0085'
  | '_' => some '\u00a0'
  | 'L' => some '\u2028'
  | 'P' => some '\u2029'
  | _ => none

def charOfHex? (ds : List Char) : Option Char :=
  if ds.all (isDigitIn 16) then scalar? (digitsValue 16 ds) else none

/-- A line with its escapes replaced: the line end before it, its characters, and whether its end is
escaped. With each character goes whether it is a blank that may be dropped at a line end. -/
structure Decoded where
  lead : Char
  chars : List (Char × Bool)
  joined : Bool
deriving DecidableEq, Repr

namespace Decoded

/-- A character before a decoded line. -/
def cons (c : Char) (droppable : Bool) (d : Decoded) : Decoded :=
  { d with chars := (c, droppable) :: d.chars }

/-- A decoded line without the blanks at its end, which an escaped line end keeps. -/
def trimEnd (d : Decoded) : Decoded :=
  if d.joined then d else { d with chars := (d.chars.reverse.dropWhile (·.2)).reverse }

def trimStart (d : Decoded) : Decoded := { d with chars := d.chars.dropWhile (·.2) }

def text (d : Decoded) : List Char := d.chars.map Prod.fst

end Decoded

/-- The characters of a line of the content, after a line end, with their escapes replaced. -/
def Quote.decode? (lead : Char) : Quote → List Char → Option Decoded
  | _, [] => some ⟨lead, [], false⟩
  | .single, '\'' :: '\'' :: cs => (decode? lead .single cs).map (.cons '\'' false)
  | .double, ['\\'] => some ⟨lead, [], true⟩
  | .double, '\\' :: 'x' :: a :: b :: cs =>
    (charOfHex? [a, b]).bind fun x => (decode? lead .double cs).map (.cons x false)
  | .double, '\\' :: 'u' :: a :: b :: c :: d :: cs =>
    (charOfHex? [a, b, c, d]).bind fun x => (decode? lead .double cs).map (.cons x false)
  | .double, '\\' :: 'U' :: a :: b :: c :: d :: e :: f :: g :: h :: cs =>
    (charOfHex? [a, b, c, d, e, f, g, h]).bind fun x =>
      (decode? lead .double cs).map (.cons x false)
  | .double, '\\' :: c :: cs =>
    (escapeOf? c).bind fun x => (decode? lead .double cs).map (.cons x false)
  | q, c :: cs => (decode? lead q cs).map (.cons c (isBlank c))

/-- The decoded lines after the first one, without the blanks at line ends. -/
def trimLater : List Decoded → List Decoded
  | [] => []
  | [d] => [d.trimStart]
  | d :: ds => d.trimEnd.trimStart :: trimLater ds

/-- The text of decoded lines. -/
def foldDecoded : List Decoded → List Char
  | [] => []
  | [d] => d.text
  | d :: ds =>
    let first := d.trimEnd
    fold first.text first.joined [] ((trimLater ds).map fun d => (⟨d.lead, d.text⟩, d.joined))

def Quote.read? (q : Quote) (r : Rest) : Option (Scalar × Rest) := do
  let (ls, rest) ← q.lines? ⟨'\n', r.line⟩ r.later
  let ds ← ls.mapM fun l => q.decode? l.lead l.text
  return (⟨false, .ofList (foldDecoded ds)⟩, rest)

end TensorShader.Yaml
