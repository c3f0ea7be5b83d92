import TensorShader.Template.Fault

/-! The tokens inside the tags of a template, and the segments that a template consists of: plain
text, output tags, and directive tags. -/

namespace TensorShader.Template

/-- The tags that hold tokens. -/
inductive TagKind where
  /-- A tag whose value is written. -/
  | output
  /-- A tag that holds a statement. -/
  | directive
deriving DecidableEq, Repr

def TagKind.endName : TagKind → String
  | .output => "end of variable block"
  | .directive => "end of block"

/-- A token inside a tag. The last token of a tag with an end is `close`. -/
inductive Token where
  | name (s : String)
  /-- A string, and whether it stands between two quotes as it is, without a backslash. -/
  | string (s : String) (verbatim : Bool)
  | int (i : Integer)
  | float (x : Binary64)
  | symbol (s : String)
  | close (kind : TagKind)
  /-- The end of the template. -/
  | finish
  /-- What stands here is not a token. -/
  | fault (cause : Cause)
deriving DecidableEq, Repr

def Token.describe : Token → String
  | .name _ => "identifier"
  | .string .. => "string"
  | .int _ => "integer"
  | .float _ => "float"
  | .symbol s => "`" ++ s ++ "`"
  | .close kind => kind.endName
  | .finish => "end of input"
  | .fault cause => cause.message

def Token.isFault : Token → Bool
  | .fault _ => true
  | _ => false

/-- A token and the line at which it is reported, which is the one on which it starts. -/
structure Located where
  token : Token
  line : Nat
deriving DecidableEq, Repr

/-- Tokens in which strings that stand side by side are one. A string ends the template if nothing
follows it, and a single verbatim string also if no token does. -/
def joinStrings : List Located → List Located
  | [] => []
  | ⟨.string s verbatim, line⟩ :: ts => join s verbatim line line ts
  | t :: ts => t :: joinStrings ts
where
  /-- The tokens with a string before them that starts on a line and ends with a token on line
  `last`. -/
  join (s : String) (verbatim : Bool) (line last : Nat) : List Located → List Located
    | [] => [⟨.string s verbatim, line⟩, ⟨.finish, last⟩]
    | ⟨.string next _, l⟩ :: ts => join (s ++ next) false line l ts
    | t :: ts =>
      if verbatim && t.token.isFault then [⟨.string s verbatim, line⟩, ⟨.finish, last⟩]
      else ⟨.string s verbatim, line⟩ :: t :: joinStrings ts

/-- A piece of a template. -/
inductive Segment where
  /-- Text that is written as it is, and the line on which it starts. -/
  | text (s : String) (line : Nat)
  /-- A tag that starts on a line, and its tokens. -/
  | tag (kind : TagKind) (line : Nat) (tokens : List Located)
  /-- A comment without an end, and the line on which the template ends. -/
  | openComment (line : Nat)
deriving DecidableEq, Repr

end TensorShader.Template
