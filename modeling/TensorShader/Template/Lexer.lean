import TensorShader.Template.Numeral
import TensorShader.Template.StringLiteral
import TensorShader.Text.Blank

/-! How the text of a template is cut into segments, and the inside of its tags into tokens. One
pass over the characters suffices: what has been read of the current piece is part of the lexer's
mode.

A directive and a comment take the blanks before them on their line, if the line has nothing else
before them, and the line end after them. A `-` at either end of a tag takes all white space on
that side, and a `+` keeps all of it. -/

namespace TensorShader.Template

/-- What has been read of a token, the latest character first. -/
inductive Pending where
  | nothing
  | name (chars : List Char)
  | number (part : NumberPart) (chars : List Char)
  /-- A string with its quote; `escaped` after a backslash. -/
  | string (quote : Char) (escaped : Bool) (chars : List Char)
  | symbol (c : Char)
deriving Repr

/-- What a further character does to a pending token. -/
inductive Progress where
  /-- The character belongs to the token, which may go on. -/
  | more (pending : Pending)
  /-- The character ends the token and belongs to it. -/
  | done (token : Token)
  /-- The character does not belong to the token. -/
  | stop
deriving Repr

def pairSymbols : List (List Char) :=
  [['/', '/'], ['*', '*'], ['=', '='], ['!', '='], ['>', '='], ['<', '=']]

def symbolChars : List Char :=
  ['+', '-', '*', '/', '%', '.', ',', ':', '~', '|', '=', '>', '<', '(', ')', '[', ']',
    '\x7b', '\x7d']

namespace Pending

/-- The pending token that the first of the given characters starts. -/
def start? : List Char → Option Pending
  | [] => none
  | c :: rest =>
    if isNameStart c then some (.name [c])
    else if c.isDigit then some (.number .whole [c])
    else if c == '"' || c == '\'' then some (.string c false [])
    else if c ∈ symbolChars ∨ (c = '!' ∧ rest.head? = some '=') then some (.symbol c)
    else none

/-- What a further character does, before the given ones. -/
def step : Pending → Char → List Char → Progress
  | .nothing, _, _ => .stop
  | .name cs, c, _ => if isNameChar c then .more (.name (c :: cs)) else .stop
  | .number part cs, c, rest =>
    match part.next? cs c rest with
    | some part => .more (.number part (c :: cs))
    | none => .stop
  | .string quote escaped cs, c, _ =>
    if escaped then .more (.string quote false (c :: cs))
    else if c == quote then .done (stringToken cs.reverse)
    else .more (.string quote (c == '\\') (c :: cs))
  | .symbol a, c, _ => if [a, c] ∈ pairSymbols then .done (.symbol (.ofList [a, c])) else .stop

/-- The token that ends before the next character, if there is one. -/
def token? : Pending → Option Token
  | .nothing => none
  | .name cs => some (.name (.ofList cs.reverse))
  | .number part cs => some (numberToken part cs.reverse)
  | .string .. => some (.fault (.malformed .openString))
  | .symbol c => some (.symbol (.ofList [c]))

end Pending

/-- A tag that is being read: its tokens so far, the latest first, how many brackets are open, and
the token being read with the line on which it starts. -/
structure OpenTag where
  kind : TagKind
  line : Nat
  tokens : List Located
  brackets : Int
  pending : Pending
  start : Nat
deriving Repr

namespace OpenTag

def empty (kind : TagKind) (line : Nat) : OpenTag := ⟨kind, line, [], 0, .nothing, line⟩

/-- The line of the latest token, or on which the tag starts. -/
def latestLine (t : OpenTag) : Nat := (t.tokens.head?.map (·.line)).getD t.line

/-- The line at which a token that ends on a line is reported: that of the token before a string
whose escapes are wrong, the line where a string should have ended, and otherwise the line on
which the token starts. -/
def lineOf (t : OpenTag) (token : Token) (line : Nat) : Nat :=
  match token with
  | .fault .stringEscape => t.latestLine
  | .fault (.malformed .openString) => line
  | _ => t.start

def push (t : OpenTag) (token : Token) (line : Nat) : OpenTag :=
  { t with tokens := ⟨token, line⟩ :: t.tokens, pending := .nothing }

/-- The tag with the pending token, which ends on a line, among its tokens. -/
def settle (t : OpenTag) (line : Nat) : OpenTag :=
  match t.pending.token? with
  | some token => t.push token (t.lineOf token line)
  | none => t

/-- The tag after a character at which a token may start, before the given ones. -/
def begin (t : OpenTag) (c : Char) (rest : List Char) (line : Nat) : OpenTag :=
  if isAsciiBlank c then t
  else
    match Pending.start? (c :: rest) with
    | some p =>
      let change := if c ∈ ['(', '[', '\x7b'] then 1 else if c ∈ [')', ']', '\x7d'] then -1 else 0
      { t with pending := p, start := line, brackets := t.brackets + change }
    | none => t.push (.fault (.malformed .character)) line

/-- The segment of a tag whose end has been read, or that the end of the template cuts off. -/
def segment (t : OpenTag) : Segment := .tag t.kind t.line (joinStrings t.tokens.reverse)

end OpenTag

/-- What is taken away at the start of a text. -/
inductive Trim where
  | nothing
  /-- A line end. -/
  | lineEnd
  /-- The line feed that completes a line end. -/
  | lineFeed
  /-- All white space. -/
  | blanks
deriving DecidableEq, Repr

/-- What remains to be taken away after a character that is taken, or `none` if the character
stays. -/
def Trim.take? : Trim → Char → Option Trim
  | .lineEnd, '\r' => some .lineFeed
  | .lineEnd, '\n' | .lineFeed, '\n' => some .nothing
  | .blanks, c => if isBlank c then some .blanks else none
  | _, _ => none

/-- What a character after an opening brace opens. -/
inductive Opening where
  | tag (kind : TagKind)
  | comment
deriving DecidableEq, Repr

/-- The tag or comment that a character after an opening brace opens. -/
def Opening.ofChar? : Char → Option Opening
  | '\x7b' => some (.tag .output)
  | '%' => some (.tag .directive)
  | '#' => some .comment
  | _ => none

/-- The text before a tag, the latest character first, without the white space that the tag
takes. The mark is the character after the opening; `alone` says that the line has only blanks
before the tag. Blanks after a carriage return stay. -/
def Opening.takeBefore (o : Opening) (mark : Option Char) (alone : Bool) (cs : List Char) :
    List Char :=
  if mark = some '-' then cs.dropWhile isBlank
  else if mark = some '+' ∨ o = .tag .output ∨ !alone then cs
  else
    match cs.dropWhile fun c => isBlank c && !isLineEnd c with
    | '\r' :: _ => cs
    | taken => taken

/-- The segment of a text that starts on a line, the latest character first, if it has
characters. -/
def textSegment (line : Nat) (cs : List Char) : List Segment :=
  if cs.isEmpty then [] else [.text (.ofList cs.reverse) line]

/-- What is being read. -/
inductive Mode where
  /-- Text that starts on a line, and its characters so far, the latest first. -/
  | text (trim : Trim) (line : Nat) (chars : List Char)
  /-- A tag or comment whose opening brace has been read. -/
  | opened (o : Opening)
  /-- A comment, and its latest character. -/
  | comment (latest : Char)
  | tag (t : OpenTag)
  /-- The end of a tag or comment, of which `count` characters remain. -/
  | closing (count : Nat) (trim : Trim)
deriving Repr

def Opening.mode (o : Opening) (line : Nat) : Mode :=
  match o with
  | .tag kind => .tag (.empty kind line)
  | .comment => .comment ' '

/-- What a comment takes after it, by the character before its end. -/
def commentTrim (latest : Char) : Trim :=
  if latest = '-' then .blanks else if latest = '+' then .nothing else .lineEnd

/-- What a tag takes after it and how long its end is, if its end starts the given characters. -/
def TagKind.end? (kind : TagKind) (cs : List Char) : Option (Trim × Nat) :=
  match kind, cs with
  | .output, '-' :: '\x7d' :: '\x7d' :: _ => some (.blanks, 3)
  | .output, '+' :: '\x7d' :: '\x7d' :: _ => some (.nothing, 3)
  | .output, '\x7d' :: '\x7d' :: _ => some (.nothing, 2)
  | .directive, '-' :: '%' :: '\x7d' :: _ => some (.blanks, 3)
  | .directive, '+' :: '%' :: '\x7d' :: _ => some (.nothing, 3)
  | .directive, '%' :: '\x7d' :: _ => some (.lineEnd, 2)
  | _, _ => none

/-- The end of an open tag, if it starts the given characters. Inside brackets a tag has no end. -/
def OpenTag.end? (t : OpenTag) (cs : List Char) : Option (Trim × Nat) :=
  if t.brackets = 0 then t.kind.end? cs else none

def Opening.of? : List Char → Option Opening
  | '\x7b' :: c :: _ => ofChar? c
  | _ => none

def nextLine (line : Nat) (c : Char) : Nat := if c == '\n' then line + 1 else line

/-- Whether the line has only blanks, after one more character. -/
def nextAlone (alone : Bool) (c : Char) : Bool := isLineEnd c || (alone && isBlank c)

/-- The segments of the given characters, read from a mode on. `line` is the current line, and
`alone` says whether only blanks have been read of it. -/
def scan : Mode → (line : Nat) → (alone : Bool) → List Char → List Segment
  | .text _ start cs, _, _, [] => textSegment start cs
  | .opened o, line, _, [] => (match o with | .tag k => [.tag k line []] | .comment => [])
  | .comment _, line, _, [] => [.openComment line]
  | .tag t, line, _, [] => [(t.settle line).segment]
  | .closing _ _, _, _, [] => []
  | .text trim start cs, line, alone, c :: rest =>
    match trim.take? c with
    | some trim =>
      scan (.text trim (nextLine line c) cs) (nextLine line c) (nextAlone alone c) rest
    | none =>
      match Opening.of? (c :: rest) with
      | some o => textSegment start (o.takeBefore (rest.drop 1).head? alone cs) ++
          scan (.opened o) line false rest
      | none => scan (.text .nothing start (c :: cs)) (nextLine line c) (nextAlone alone c) rest
  | .opened o, line, _, _ :: rest =>
    match rest with
    | [] => scan (o.mode line) line false []
    | mark :: rest =>
      if mark = '-' ∨ mark = '+' then scan (o.mode line) line false rest
      else scan (o.mode line) line false (mark :: rest)
  | .comment latest, line, _, c :: rest =>
    if c = '#' ∧ rest.head? = some '\x7d' then
      scan (.closing 1 (commentTrim latest)) line false rest
    else scan (.comment c) (nextLine line c) false rest
  | .tag t, line, _, c :: rest =>
    match t.pending.step c rest with
    | .more p => scan (.tag { t with pending := p }) (nextLine line c) false rest
    | .done token => scan (.tag (t.push token (t.lineOf token line))) (nextLine line c) false rest
    | .stop =>
      let t := t.settle line
      match t.end? (c :: rest) with
      | some (trim, length) =>
        (t.push (.close t.kind) line).segment :: scan (.closing (length - 1) trim) line false rest
      | none => scan (.tag (t.begin c rest line)) (nextLine line c) false rest
  | .closing count trim, line, _, _ :: rest =>
    scan (if count ≤ 1 then .text trim line [] else .closing (count - 1) trim) line false rest

/-- The characters of a template without the line end after its last line. -/
def dropFinalLineEnd (cs : List Char) : List Char :=
  match cs.reverse with
  | '\n' :: '\r' :: rest => rest.reverse
  | '\n' :: rest => rest.reverse
  | '\r' :: rest => rest.reverse
  | _ => cs

def segments (source : String) : List Segment :=
  scan (.text .nothing 1 []) 1 true (dropFinalLineEnd source.toList)

end TensorShader.Template
