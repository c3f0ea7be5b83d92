import TensorShader.Yaml.Scalar

/-! Block scalars: lines that are indented under a header. In a literal one, line ends are kept; in
a folded one, a line end between two lines that start without blanks becomes a space. The header
also says how line ends at the end are treated. -/

namespace TensorShader.Yaml

/-- What becomes of the line ends at the end. -/
inductive Chomping where
  /-- One is kept. -/
  | clip
  /-- None is kept. -/
  | strip
  /-- All are kept. -/
  | keep
deriving DecidableEq, Repr

/-- The header of a block scalar. -/
structure BlockHeader where
  folded : Bool
  chomping : Chomping
  /-- The indentation of the lines below that of the parent, if it is given. -/
  indentation : Option Nat
deriving DecidableEq, Repr

def Chomping.ofChar? : Char → Option Chomping
  | '-' => some .strip
  | '+' => some .keep
  | _ => none

def indentationOf? (c : Char) : Option Nat :=
  if '1' ≤ c ∧ c ≤ '9' then some (c.toNat - '0'.toNat) else none

/-- The header after its first character, which says whether lines are folded. -/
def BlockHeader.read? (folded : Bool) (cs : List Char) : Option BlockHeader :=
  match cs with
  | a :: b :: rest =>
    match Chomping.ofChar? a, indentationOf? b, indentationOf? a, Chomping.ofChar? b with
    | some ch, some n, _, _ => if endsHere rest then some ⟨folded, ch, some n⟩ else none
    | _, _, some n, some ch => if endsHere rest then some ⟨folded, ch, some n⟩ else none
    | _, _, _, _ => single a (b :: rest)
  | [a] => single a []
  | [] => some ⟨folded, .clip, none⟩
where
  /-- The header with at most one indicator. -/
  single (a : Char) (rest : List Char) : Option BlockHeader :=
    match Chomping.ofChar? a, indentationOf? a with
    | some ch, _ => if endsHere rest then some ⟨folded, ch, none⟩ else none
    | none, some n => if endsHere rest then some ⟨folded, .clip, some n⟩ else none
    | none, none => if endsHere (a :: rest) then some ⟨folded, .clip, none⟩ else none

/-- The indentation of the lines under a parent at column `parent`: that of the first line with
text, but at least that of the empty lines before it, and more than the parent's. -/
def detectIndentation? (parent : Nat) (most : Nat) : List Line → Option Nat
  | [] => some (max most (parent + 1))
  | ⟨_, l⟩ :: ls =>
    let most := max most (indent l)
    match l.drop (indent l), ls with
    | '\t' :: _, _ => none
    | [], _ :: _ => detectIndentation? parent most ls
    | _, _ => some (max most (parent + 1))

/-- The text of a block scalar so far. -/
structure BlockText where
  text : List Char
  /-- The end of the latest line with text, if it has one and it is not yet in the text. -/
  lineEnd : Option Char
  /-- Whether the latest line with text starts with a blank. -/
  startsBlank : Bool
  /-- The ends of the empty lines after it. -/
  empty : List Char
deriving DecidableEq, Repr

/-- The text with one more line, which has text and an end if another line follows. -/
def BlockText.push (b : BlockText) (folded : Bool) (lineEnd : Option Char) (l : List Char) :
    BlockText :=
  let blank := l.head?.any isBlank
  let separator :=
    if folded && !b.startsBlank && !blank && b.lineEnd == some '\n' then
      if b.empty.isEmpty then [' '] else []
    else b.lineEnd.toList
  ⟨b.text ++ separator ++ b.empty ++ l, lineEnd, blank, []⟩

/-- The text with the lines of an indentation, and the lines after them. -/
def BlockText.readLines? (folded : Bool) (column : Nat) :
    BlockText → List Line → Option (BlockText × List Line)
  | b, [] => some (b, [])
  | b, l :: ls =>
    match l.text.drop (min (indent l.text) column), ls with
    | [], [] => some (b, [l])
    | [], next :: _ => readLines? folded column { b with empty := b.empty ++ [next.lead] } ls
    | c :: cs, _ =>
      if column ≤ indent l.text then
        readLines? folded column (b.push folded (ls.head?.map (·.lead)) (c :: cs)) ls
      else if c = '\t' then none
      else some (b, l :: ls)

/-- The text with the line ends that its chomping leaves. -/
def BlockText.finish (b : BlockText) (chomping : Chomping) : List Char :=
  match chomping with
  | .strip => b.text
  | .clip => b.text ++ b.lineEnd.toList
  | .keep => b.text ++ b.lineEnd.toList ++ b.empty

/-- The block scalar after its first character, under a parent at column `parent`. -/
def readBlock? (folded : Bool) (parent : Nat) (r : Rest) : Option (Scalar × Rest) := do
  let header ← BlockHeader.read? folded r.line
  let column ←
    match header.indentation with
    | some n => some (parent + n)
    | none => detectIndentation? parent 0 r.later
  let (b, later) ← BlockText.readLines? folded column ⟨[], none, false, []⟩ r.later
  return (⟨false, .ofList (b.finish header.chomping)⟩, ⟨[], later⟩)

end TensorShader.Yaml
