import TensorShader.Yaml.Block
import TensorShader.Yaml.Quoted

/-! Documents that hold one mapping from scalars to scalars, as a block of lines or between braces.
`entries?` reads the entries of such a text, in their order; any other text has none. A document
without content is a mapping without entries. -/

namespace TensorShader.Yaml

def flowIndicators : List Char := [',', '[', ']', '\x7b', '\x7d']

def indicators : List Char :=
  ['-', '?', ':', '#', '&', '*', '!', '|', '>', '\'', '"', '%', '@', '\x60'] ++ flowIndicators

def startsPlain (flow : Bool) : List Char → Bool
  | [] => false
  | c :: cs =>
    if c = '-' then !atBlank cs
    else if c = '?' ∨ c = ':' then !flow && !atBlank cs
    else !isBlank c && !indicators.contains c

/-- The part of a plain scalar on one line, and what stops it there. -/
def plainPart? (flow : Bool) : List Char → Option (List Char × List Char)
  | [] => some ([], [])
  | c :: cs =>
    if c = ':' ∧ atBlank cs then some ([], c :: cs)
    else if flow ∧ c = ':' ∧ cs.head?.any (fun d => d = '?' || flowIndicators.contains d) then none
    else if flow ∧ flowIndicators.contains c then some ([], c :: cs)
    else if isBlank c ∧ cs.head? = some '#' then some ([], cs)
    else (plainPart? flow cs).map fun r => (c :: r.1, r.2)

/-- The lines of a plain scalar after its first one, which are indented by at least `least` unless
they stand between braces, and the text after them. A comment on such a line ends the scalar. -/
def plainLater? (flow : Bool) (least : Nat) : List Line → Option (List Line × Rest)
  | [] => some ([], ⟨[], []⟩)
  | ⟨lead, l⟩ :: ls =>
    let outdented := !flow && decide (indent l < least)
    if (marker? l).isSome then some ([], ⟨[], ⟨lead, l⟩ :: ls⟩)
    else if outdented ∧ (l.drop (indent l)).head? = some '\t' then none
    else
      match dropBlanks l with
      | [] => (plainLater? flow least ls).map fun r => (⟨lead, []⟩ :: r.1, r.2)
      | c :: cs =>
        if outdented then some ([], ⟨[], ⟨lead, l⟩ :: ls⟩)
        else if c = '#' then some ([], ⟨[], ls⟩)
        else
          match plainPart? flow (c :: cs) with
          | none => none
          | some (part, []) =>
            (plainLater? flow least ls).map fun r => (⟨lead, dropEndBlanks part⟩ :: r.1, r.2)
          | some (part, rest) => some ([⟨lead, dropEndBlanks part⟩], ⟨rest, ls⟩)

def readPlain? (flow : Bool) (least : Nat) (r : Rest) : Option (Scalar × Rest) :=
  if startsPlain flow r.line then do
    let (part, rest) ← plainPart? flow r.line
    let (later, rest) ← if rest.isEmpty then plainLater? flow least r.later
      else some ([], ⟨rest, r.later⟩)
    let later := (later.reverse.dropWhile (·.text.isEmpty)).reverse
    return (⟨true, .ofList (fold (dropEndBlanks part) false [] (later.map (·, false)))⟩, rest)
  else none

/-- The scalar that is left out. -/
def missing : Scalar := ⟨true, ""⟩

def readFlowScalar? (flow : Bool) (least : Nat) (r : Rest) : Option (Scalar × Rest) :=
  match r.line with
  | c :: cs =>
    match Quote.ofChar? c with
    | some q => q.read? ⟨cs, r.later⟩
    | none => readPlain? flow least r
  | [] => none

/-- A scalar under a parent at column `parent`. -/
def readScalar? (parent : Nat) (r : Rest) : Option (Scalar × Rest) :=
  match r.line with
  | '|' :: cs => readBlock? false parent ⟨cs, r.later⟩
  | '>' :: cs => readBlock? true parent ⟨cs, r.later⟩
  | _ => readFlowScalar? false (parent + 1) r

/-- The greatest number of characters from the start of a key to its colon. -/
def keyLimit : Nat := 1024

/-- Whether a key at the start of a line is near enough to the colon before the rest of the line. -/
def colonIsNear (line afterColon : List Char) : Bool :=
  decide (line.length ≤ keyLimit + 1 + afterColon.length)

/-- The key at the start of a line, and the text after its colon. -/
def readKey? (line : List Char) : Option (Scalar × List Char) := do
  let (key, rest) ← readFlowScalar? false 0 ⟨line, []⟩
  match dropBlanks rest.line with
  | ':' :: cs => if atBlank cs && colonIsNear line cs then some (key, cs) else none
  | _ => none

/-- Whether the given characters start with the header of a block scalar. -/
def startsBlock : List Char → Bool
  | '|' :: _ | '>' :: _ => true
  | _ => false

/-- The value after a colon. It may stand on a later line that is indented further than the key, or
as far if it is a block scalar. -/
def readValue? (column : Nat) (r : Rest) : Option (Scalar × Rest) :=
  match dropBlanks r.line with
  | [] | '#' :: _ =>
    match upcoming? r.later with
    | none => none
    | some (.content c next) =>
      if column < c ∨ (column = c ∧ startsBlock next.line) then readScalar? column next
      else some (missing, ⟨[], r.later⟩)
    | some _ => some (missing, ⟨[], r.later⟩)
  | c :: cs => readScalar? column ⟨c :: cs, r.later⟩

/-- Whether a line holds nothing but a comment or the end of a document. -/
def isIdle (l : Line) : Bool :=
  match marker? l.text with
  | some (ends, rest) => ends && endsHere rest
  | none =>
    let text := markAsSpace l.text
    match text.drop (indent text) with
    | [] | '#' :: _ => true
    | _ => false

/-- The entries, if no further document and no text is left. -/
def finish? (entries : List Entry) (later : List Line) : Option (List Entry) :=
  if later.all isIdle then some entries else none

/-- The entries of a block at a column, of which the first starts the given text. Each entry takes
at least a line, so the number of lines bounds the number of steps. -/
def blockEntries? (column : Nat) : (steps : Nat) → Rest → Option (List Entry)
  | 0, _ => none
  | steps + 1, r => do
    let (key, afterColon) ← readKey? r.line
    let (value, rest) ← readValue? column ⟨afterColon, r.later⟩
    if !endsHere rest.line then none
    match upcoming? rest.later with
    | some (.content c next) =>
      if c = column then return (key, value) :: (← blockEntries? column steps next) else none
    | _ => finish? [(key, value)] rest.later

/-- The text after white space and comments between braces. -/
def skipFlow? : List Char → List Line → Option Rest
  | line, later =>
    match dropBlanks line with
    | [] | '#' :: _ =>
      match later with
      | [] => none
      | ⟨_, l⟩ :: ls => if (marker? l).isSome then none else skipFlow? (markAsSpace l) ls
    | c :: cs => some ⟨c :: cs, later⟩

/-- An entry between braces. A key stands on one line with its colon. -/
def flowEntry? (r : Rest) : Option (Entry × Rest) := do
  let (key, rest) ← readFlowScalar? true 0 r
  match dropBlanks rest.line with
  | ':' :: cs =>
    if rest.later.length ≠ r.later.length ∨ !colonIsNear r.line cs then none
    let rest ← skipFlow? cs rest.later
    if rest.line.head? = some ',' ∨ rest.line.head? = some '\x7d' then return ((key, missing), rest)
    let (value, rest) ← readFlowScalar? true 0 rest
    return ((key, value), rest)
  | _ => return ((key, missing), rest)

/-- The entries up to a closing brace, and the text after it. Each entry takes at least a
character, so the number of characters bounds the number of steps. -/
def flowEntries? : (steps : Nat) → (first : Bool) → Rest → Option (List Entry × Rest)
  | 0, _, _ => none
  | steps + 1, first, r => do
    let r ← skipFlow? r.line r.later
    match r.line with
    | '\x7d' :: cs => return ([], ⟨cs, r.later⟩)
    | ',' :: cs =>
      if first then none
      let r ← skipFlow? cs r.later
      match r.line with
      | '\x7d' :: cs => return ([], ⟨cs, r.later⟩)
      | _ => more steps r
    | _ => if first then more steps r else none
where
  /-- An entry and those after it. -/
  more (steps : Nat) (r : Rest) : Option (List Entry × Rest) := do
    let (entry, rest) ← flowEntry? r
    let (entries, rest) ← flowEntries? steps false rest
    return (entry :: entries, rest)

/-- The entries of a mapping between braces that is the whole document. -/
def flowDocument? (r : Rest) : Option (List Entry) := do
  let size := r.later.foldl (fun n l => n + l.text.length) r.line.length + 1
  let (entries, rest) ← flowEntries? size true r
  if endsHere rest.line then finish? entries rest.later else none

def mapping? (column : Nat) (r : Rest) : Option (List Entry) :=
  match r.line with
  | '\x7b' :: cs => flowDocument? ⟨cs, r.later⟩
  | _ => blockEntries? column (r.later.length + 1) r

/-- The entries of the document after its start marker. On the line of the marker only a mapping
between braces may stand. -/
def afterStart? (r : Rest) : Option (List Entry) :=
  if endsHere r.line then
    match upcoming? r.later with
    | some (.content column next) => mapping? column next
    | _ => finish? [] r.later
  else
    match dropBlanks r.line with
    | '\x7b' :: cs => flowDocument? ⟨cs, r.later⟩
    | _ => none

def entries? (text : String) : Option (List Entry) :=
  let cs := text.toList
  if cs.all isPrintable then
    match upcoming? (splitLines '\n' cs) with
    | some .finish => some []
    | some (.marker false r) => afterStart? r
    | some (.content column r) => mapping? column r
    | _ => none
  else none

end TensorShader.Yaml
