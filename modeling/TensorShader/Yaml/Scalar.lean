/-! Scalars of YAML documents, and the line structure of a document's text. -/

namespace TensorShader.Yaml

/-- A scalar: its text, and whether it is written without quotes or a block indicator. -/
structure Scalar where
  plain : Bool
  text : String
deriving DecidableEq, Repr

abbrev Entry := Scalar × Scalar

/-- A line of a text: the line end before it, and its characters. -/
structure Line where
  lead : Char
  text : List Char
deriving DecidableEq, Repr

/-- The text that has not been read: what is left of the current line, and the lines after it. -/
structure Rest where
  line : List Char
  later : List Line
deriving DecidableEq, Repr

def isPrintable (c : Char) : Bool :=
  let n := c.toNat
  c == '\t' || c == '\n' || c == '\r' || (0x20 ≤ n && n ≤ 0x7e) || n == 0x85 ||
    (0xa0 ≤ n && n ≤ 0xfffd) || 0x10000 ≤ n

def isBlank (c : Char) : Bool := c == ' ' || c == '\t'

/-- The line end that a character is, if it is one. The separators of lines and of paragraphs stay
what they are; the others all count as line feeds. -/
def lineEnd? (c : Char) : Option Char :=
  if c == '\n' || c == '\r' || c == '\u0085' then some '\n'
  else if c == '\u2028' || c == '\u2029' then some c
  else none

/-- The lines of a text that comes after a line end. -/
def splitLines (lead : Char) : List Char → List Line
  | [] => [⟨lead, []⟩]
  | '\r' :: '\n' :: cs => ⟨lead, []⟩ :: splitLines '\n' cs
  | c :: cs =>
    match lineEnd? c with
    | some next => ⟨lead, []⟩ :: splitLines next cs
    | none =>
      match splitLines lead cs with
      | l :: ls => ⟨l.lead, c :: l.text⟩ :: ls
      | [] => [⟨lead, [c]⟩]

def dropBlanks (cs : List Char) : List Char := cs.dropWhile isBlank

def dropEndBlanks (cs : List Char) : List Char := (cs.reverse.dropWhile isBlank).reverse

def indent (cs : List Char) : Nat := (cs.takeWhile (· == ' ')).length

/-- Whether the next character is a blank, or the line has ended. -/
def atBlank : List Char → Bool
  | [] => true
  | c :: _ => isBlank c

/-- Whether only blanks and a comment are left of a line. -/
def endsHere (cs : List Char) : Bool :=
  match dropBlanks cs with
  | [] => true
  | c :: _ => c == '#'

/-- The rest of a line after a document marker, and whether the marker ends a document. -/
def marker? : List Char → Option (Bool × List Char)
  | '-' :: '-' :: '-' :: cs => if atBlank cs then some (false, cs) else none
  | '.' :: '.' :: '.' :: cs => if atBlank cs then some (true, cs) else none
  | _ => none

/-- What comes next in a document. -/
inductive Upcoming where
  /-- The end of the text. -/
  | finish
  /-- A document marker, and the text after it. -/
  | marker (ends : Bool) (rest : Rest)
  /-- Text after a number of spaces. -/
  | content (column : Nat) (rest : Rest)
deriving DecidableEq, Repr

/-- The characters of a line where a token may start, of which a byte order mark at the start counts
as a space. -/
def markAsSpace : List Char → List Char
  | '\ufeff' :: cs => ' ' :: cs
  | cs => cs

/-- What comes next after empty lines and comments; `none` if a line starts with a tab. -/
def upcoming? : List Line → Option Upcoming
  | [] => some .finish
  | ⟨_, l⟩ :: ls =>
    match marker? l with
    | some (ends, cs) => some (.marker ends ⟨cs, ls⟩)
    | none =>
      let l := markAsSpace l
      match l.drop (indent l) with
      | [] | '#' :: _ => upcoming? ls
      | '\t' :: _ => none
      | c :: cs => some (.content (indent l) ⟨c :: cs, ls⟩)

/-- What stands for line ends that follow each other: an escaped one at the start for nothing, one
line feed for a space, and a line feed before other line ends for nothing. -/
def separator (joined : Bool) (ends : List Char) : List Char :=
  match joined, ends with
  | true, _ :: more => more
  | false, ['\n'] => [' ']
  | false, '\n' :: more => more
  | _, ends => ends

/-- The text of lines that follow `text` and the line ends `ends`, of which the first is escaped if
`joined` holds. With each line goes whether its end is escaped. The last line counts as a line even
if it is empty. -/
def fold (text : List Char) (joined : Bool) (ends : List Char) : List (Line × Bool) → List Char
  | [] => text
  | (l, next) :: ls =>
    if l.text.isEmpty ∧ !next ∧ !ls.isEmpty then fold text joined (ends ++ [l.lead]) ls
    else fold (text ++ separator joined (ends ++ [l.lead]) ++ l.text) next [] ls

end TensorShader.Yaml
