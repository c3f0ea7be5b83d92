import TensorShader.Template.Lexer
import TensorShader.Template.Term

/-! Templates: text with expressions whose values are written and with parts that depend on tests.
`Template.parse` reads one from its source, segment by segment, with a stack of the `if`s that have
not ended. Of the template language this is the part that kernels are written in: loops, assignments,
macros and inclusions are no statements here, and lists, calls, conditional expressions and
subscripts in brackets are no expressions. A source that uses them has no template. -/

namespace TensorShader

/-- A template: a sequence of pieces that ends with `done`. -/
inductive Template where
  | done
  /-- Text, before the rest. -/
  | text (s : String) (rest : Template)
  /-- The value of an expression, before the rest. -/
  | output (e : Template.Expr) (rest : Template)
  /-- One of two templates, by the truth of a test, before the rest. -/
  | choice (test : Template.Expr) (yes no rest : Template)
deriving DecidableEq, Repr, Inhabited

namespace Template

/-- The pieces of a template, and then another template. -/
def append : Template → Template → Template
  | .done, t => t
  | .text s rest, t => .text s (rest.append t)
  | .output e rest, t => .output e (rest.append t)
  | .choice test yes no rest, t => .choice test yes no (rest.append t)

/-- The template of parts, the latest first. -/
def ofParts (parts : List Template) : Template :=
  parts.foldl (fun rest part => part.append rest) .done

/-- An `if` whose end has not been read. -/
structure OpenIf where
  /-- The parts of the template before it, the latest first. -/
  outer : List Template
  /-- The tests that were read with what they guard, the latest first. -/
  earlier : List (Expr × Template)
  /-- The test of what is being read. After `else` there is none. -/
  test : Option Expr
deriving Repr

namespace OpenIf

/-- What earlier tests guard, the latest first, and `no` if none of them holds. -/
def chain : List (Expr × Template) → Template → Template
  | [], no => no
  | (test, yes) :: earlier, no => chain earlier (.choice test yes no .done)

/-- The template of an `if` that ends after the given last part. -/
def finish (o : OpenIf) (last : Template) : Template :=
  match o.test with
  | some test => chain ((test, last) :: o.earlier) .done
  | none => chain o.earlier last

end OpenIf

/-- Nothing, if the tokens of a directive are at its end. -/
def expectEnd (last : Nat) : List Located → Except Fault Unit
  | [⟨.close _, _⟩] => .ok ()
  | ts => .error (unexpected TagKind.directive.endName last ts)

/-- The expression that the rest of a directive writes, inside a number of open `if`s. -/
def testOfTokens (nesting last : Nat) (ts : List Located) : Except Fault Expr :=
  Expr.ofTokens .directive (nesting + 1) [] (.operand true) last ts

/-- The open `if`s and the parts inside the innermost one, the latest first, after a directive that
starts on a line. -/
def directive (os : List OpenIf) (parts : List Template) (line : Nat) :
    List Located → Except Fault (List OpenIf × List Template)
  | ⟨.name word, l⟩ :: ts =>
    match word, os with
    | "endif", o :: os => do
      expectEnd l ts
      return (os, o.finish (ofParts parts) :: o.outer)
    | "else", ⟨outer, earlier, some test⟩ :: os => do
      expectEnd l ts
      return (⟨outer, (test, ofParts parts) :: earlier, none⟩ :: os, [])
    | "elif", ⟨outer, earlier, some test⟩ :: os => do
      let next ← testOfTokens (os.length + 1) l ts
      return (⟨outer, (test, ofParts parts) :: earlier, some next⟩ :: os, [])
    | word, os =>
      if depthLimit ≤ os.length then .error (malformed .depth line)
      else if word = "if" then do
        let test ← testOfTokens (os.length + 1) l ts
        return (⟨parts, [], some test⟩ :: os, [])
      else .error (malformed (.unknownStatement word) l)
  | [] => .error (unexpected "keyword" line [])
  | ⟨.fault cause, l⟩ :: _ => .error ⟨cause, l⟩
  | ⟨token, l⟩ :: _ =>
    if depthLimit ≤ os.length then .error (malformed .depth line)
    else .error (malformed (.notStatement token.describe) l)

/-- The line of the last token of a tag that starts on a line. -/
def lastLine (line : Nat) (ts : List Located) : Nat := (ts.getLast?.map (·.line)).getD line

/-- The template that segments write after the given parts inside the open `if`s. `last` is the
line of the latest text or token. -/
def ofSegments : List OpenIf → List Template → (last : Nat) → List Segment → Except Fault Template
  | [], parts, _, [] => .ok (ofParts parts)
  | _ :: _, _, last, [] => .error (unexpected TagKind.directive.endName last [])
  | os, parts, _, .text s line :: rest => ofSegments os (.text s .done :: parts) line rest
  | _, _, _, .openComment line :: _ => .error (malformed .openComment line)
  | os, parts, _, .tag .output line ts :: rest =>
    match Expr.ofTokens .output (os.length + 2) [] (.operand true) line ts with
    | .ok e => ofSegments os (.output e .done :: parts) (lastLine line ts) rest
    | .error f => .error f
  | os, parts, _, .tag .directive line ts :: rest =>
    match directive os parts line ts with
    | .ok (os, parts) => ofSegments os parts (lastLine line ts) rest
    | .error f => .error f

def parse (source : String) : Except Fault Template := ofSegments [] [] 1 (segments source)

end Template

end TensorShader
