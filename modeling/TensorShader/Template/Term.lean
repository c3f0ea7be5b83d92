import TensorShader.Template.Expr
import TensorShader.Template.Token

/-! How the tokens of a tag are read as an expression. Operators bind, from loose to tight: `or`,
`and`, `not`, comparisons, sums, products, the sign. Binary operators group to the left, but
comparisons form a chain, all of which has to hold. A sign belongs to the operand alone, before its
attributes and filters. -/

namespace TensorShader.Template

/-- A part of an expression with the line on which it starts and the line of the token before it. -/
structure Term where
  expr : Expr
  start : Nat
  before : Nat
deriving DecidableEq, Repr

namespace Term

/-- An operator applied to two terms. A literal result is on the line on which the term starts, or
for a comparison on the line of the token before it. -/
def binary (op : BinaryOp) (a b : Term) : Term :=
  ⟨.binaryOf op a.expr b.expr (if op.isComparison then a.before else a.start), a.start, a.before⟩

/-- A chain of comparisons whose latest operand is `left`, with one more. A literal result is on
the line of the token before the chain. -/
def link (held left : Term) (op : BinaryOp) (right : Term) : Term :=
  { held with expr := .chainOf held.expr op left.expr right.expr held.before }

/-- A term with a sign before it on line `start`. -/
def opposite (t : Term) (start before : Nat) : Term := ⟨t.expr.oppositeOf start, start, before⟩

/-- A term with `not` before it on line `start`. -/
def complement (t : Term) (start before : Nat) : Term := ⟨t.expr.complementOf start, start, before⟩

def map (t : Term) (f : Expr → Expr) : Term := { t with expr := f t.expr }

/-- A term with a filter, if one is named. -/
def filtered (t : Term) : Option String → Term
  | some name => t.map (.filter · name)
  | none => t

end Term

namespace BinaryOp

def ofToken? : Token → Option BinaryOp
  | .name s => [or, and, isIn].find? (·.symbol == s)
  | .symbol s =>
    [eq, ne, lt, le, gt, ge, add, sub, mul, div, quotient, remainder].find? (·.symbol == s)
  | _ => none

end BinaryOp

/-- How tightly `not` binds. -/
def complementLevel : Nat := 3

def Expr.ofToken? (t : Located) : Option Expr :=
  match t.token with
  | .name s =>
    if s = "true" ∨ s = "True" then some (.literal (.bool true) t.line)
    else if s = "false" ∨ s = "False" then some (.literal (.bool false) t.line)
    else if s = "none" ∨ s = "None" then some (.literal .none t.line)
    else some (.variable s t.line)
  | .string s _ => some (.literal (.string s) t.line)
  | .int i => some (.literal (.number (.int i)) t.line)
  | .float x => some (.literal (.number (.float x)) t.line)
  | _ => none

/-- What waits for an operand to be complete. Where something starts, the line is given, and the
line of the token before it. -/
inductive Frame where
  | binary (left : Term) (op : BinaryOp)
  /-- A comparison of `left`, the right operand of the latest of comparisons that have to hold. -/
  | chain (held left : Term) (op : BinaryOp)
  | opposite (start before : Nat)
  | complement (start before : Nat)
  /-- An open parenthesis. -/
  | group (start before : Nat)
deriving Repr

/-- The operand after the signs in front of it are applied, and what waits then. -/
def applySigns : List Frame → Term → List Frame × Term
  | .opposite start before :: fs, t => applySigns fs (t.opposite start before)
  | fs, t => (fs, t)

/-- The operand after everything that binds at least as tightly as a level is applied, up to an
open parenthesis, and what waits then. -/
def applyFrames (level : Nat) : List Frame → Term → List Frame × Term
  | .opposite start before :: fs, t => applyFrames level fs (t.opposite start before)
  | .binary left op :: fs, t =>
    if level ≤ op.level then applyFrames level fs (.binary op left t)
    else (.binary left op :: fs, t)
  | .chain held left op :: fs, t =>
    if level ≤ op.level then applyFrames level fs (held.link left op t)
    else (.chain held left op :: fs, t)
  | .complement start before :: fs, t =>
    if level ≤ complementLevel then applyFrames level fs (t.complement start before)
    else (.complement start before :: fs, t)
  | .group start before :: fs, t => (.group start before :: fs, t)
  | [], t => ([], t)

/-- What waits after an operator that follows an operand. A comparison after a comparison is
chained to it. -/
def pushOperator (op : BinaryOp) (fs : List Frame) (t : Term) : List Frame :=
  if op.isComparison then
    match applyFrames (op.level + 1) fs t with
    | (.binary left earlier :: fs, t) =>
      if earlier.isComparison then .chain (.binary earlier left t) t op :: fs
      else .binary t op :: .binary left earlier :: fs
    | (.chain held left earlier :: fs, t) =>
      .chain (held.link left earlier t) t op :: fs
    | (fs, t) => .binary t op :: fs
  else
    let (fs, t) := applyFrames op.level fs t
    .binary t op :: fs

/-- The nesting of statements and operands that is read. What is no token is reported even if it is
nested too deeply. -/
def depthLimit : Nat := 150

def malformed (what : Malformation) (line : Nat) : Fault := ⟨.malformed what, line⟩

/-- The fault of a token that stands where something else is expected, or of the end of the
template after a token on line `last`. -/
def unexpected (expected : String) (last : Nat) : List Located → Fault
  | [] => malformed (.unexpected Token.finish.describe expected) last
  | ⟨.fault cause, line⟩ :: _ => ⟨cause, line⟩
  | ⟨token, line⟩ :: _ => malformed (.unexpected token.describe expected) line

def notOperand (last : Nat) : List Located → Fault
  | [] => malformed (.unexpected Token.finish.describe "expression") last
  | ⟨.fault cause, line⟩ :: _ => ⟨cause, line⟩
  | ⟨token, line⟩ :: _ => malformed (.operand token.describe) line

def expectedAfter (kind : TagKind) (frames : List Frame) : String :=
  if frames.any fun | .group _ _ => true | _ => false then "`)`" else kind.endName

/-- What the next token has to be. -/
inductive Place where
  /-- The start of an operand, where `not` may or may not stand. -/
  | operand (mayComplement : Bool)
  /-- The continuation of an operand, or of the name of its latest filter. -/
  | continuation (t : Term) (filterName : Option String)
deriving Repr

/-- The expression that the tokens of a tag write, up to the end of the tag. `depth` is the nesting
of the next operand, and `last` the line of the latest token. -/
def Expr.ofTokens (kind : TagKind) :
    (depth : Nat) → List Frame → Place → (last : Nat) → List Located → Except Fault Expr
  | depth, _, .operand _, last, [] =>
    if depthLimit < depth then .error (malformed .depth last) else .error (notOperand last [])
  | _, _, .operand _, _, ⟨.fault cause, line⟩ :: _ => .error ⟨cause, line⟩
  | depth, fs, .operand mayComplement, last, t :: ts =>
    if mayComplement ∧ t.token = .name "not" then
      ofTokens kind depth (.complement t.line last :: fs) (.operand true) t.line ts
    else if t.token = .symbol "-" then
      ofTokens kind depth (.opposite t.line last :: fs) (.operand false) t.line ts
    else if depthLimit < depth then .error (malformed .depth last)
    else if t.token = .symbol "(" then
      if depthLimit ≤ depth ∧ !ts.head?.any (·.token.isFault) then .error (malformed .depth t.line)
      else ofTokens kind (depth + 2) (.group t.line last :: fs) (.operand true) t.line ts
    else
      match Expr.ofToken? t with
      | some e =>
        let (fs, e) := applySigns fs ⟨e, t.line, last⟩
        ofTokens kind depth fs (.continuation e none) t.line ts
      | none => .error (notOperand last (t :: ts))
  | _, fs, .continuation _ _, last, [] => .error (unexpected (expectedAfter kind fs) last [])
  | depth, fs, .continuation e filterName, last, t :: ts =>
    if t.token = .symbol "|" then
      match ts with
      | ⟨.name name, line⟩ :: ts =>
        ofTokens kind depth fs (.continuation (e.filtered filterName) (some name)) line ts
      | ts => .error (unexpected "identifier" t.line ts)
    else if t.token = .symbol "." then
      match filterName, ts with
      | some earlier, ⟨.name name, line⟩ :: ts =>
        ofTokens kind depth fs (.continuation e (some (earlier ++ "." ++ name))) line ts
      | some _, ts => .error (unexpected "identifier" t.line ts)
      | none, ⟨.name name, line⟩ :: ts =>
        ofTokens kind depth fs (.continuation (e.map (.attribute · name)) none) line ts
      | none, ⟨.int i, line⟩ :: ts =>
        ofTokens kind depth fs (.continuation (e.map (.item · i.value.toNat line)) none) line ts
      | none, ts => .error (unexpected "identifier or integer" t.line ts)
    else if t.token = .name "not" then
      match ts with
      | ⟨.name "in", line⟩ :: ts =>
        ofTokens kind depth (pushOperator .notIn fs (e.filtered filterName)) (.operand false)
          line ts
      | ts => .error (unexpected "in" t.line ts)
    else
      match BinaryOp.ofToken? t.token with
      | some op =>
        ofTokens kind depth (pushOperator op fs (e.filtered filterName))
          (.operand (decide (op.level < complementLevel))) t.line ts
      | none =>
        match t.token, applyFrames 0 fs (e.filtered filterName) with
        | .symbol ")", (.group start before :: fs, e) =>
          let (fs, e) := applySigns fs ⟨e.expr, start, before⟩
          ofTokens kind (depth - 2) fs (.continuation e none) t.line ts
        | .close _, ([], e) => .ok e.expr
        | _, _ => .error (unexpected (expectedAfter kind fs) last (t :: ts))

end TensorShader.Template
