import TensorShader.Operator.Body
import TensorShader.Proofs.Shader.Token

/-! Integer expressions of shader source, with the values that shaders give them. A value is the
list of the components of a scalar or vector, and arguments are their components side by side. -/

namespace TensorShader

/-- A coordinate as a shader's vector. -/
def Nchw.vector (p : Nchw Nat) : List Int := p.toList.map Nat.cast

namespace Arithmetic

/-- The operation that a character of shader source stands for. -/
def ofChar? : Char → Option Arithmetic
  | '+' => some .add
  | '-' => some .sub
  | '*' => some .mul
  | '/' => some .div
  | _ => none

/-- How tightly an operation binds. -/
def level : Arithmetic → Nat
  | .add | .sub => 1
  | .mul | .div => 2

/-- The result of an operation on integers. Division drops the fraction, and none is by zero. -/
def onInts? : Arithmetic → Int → Int → Option Int
  | .add, i, j => some (i + j)
  | .sub, i, j => some (i - j)
  | .mul, i, j => some (i * j)
  | .div, i, j => if j = 0 then none else some (i.tdiv j)

end Arithmetic

namespace Shader

inductive Expr where
  | number (n : Nat)
  | variable (name : String)
  /-- The components of a vector that letters select. -/
  | select (e : Expr) (letters : String)
  | binary (op : Arithmetic) (left right : Expr)
  /-- No arguments. -/
  | nothing
  /-- Arguments, and one more. -/
  | also (args e : Expr)
  | call (name : String) (args : Expr)
deriving DecidableEq, Repr

namespace Expr

/-- What has been read before the expression that is being read. -/
inductive Frame where
  /-- The left operand of an operation. -/
  | operand (op : Arithmetic) (left : Expr)
  /-- Arguments before a comma. -/
  | comma (args : Expr)
  | parenthesis
  /-- The name of a call and its parenthesis. -/
  | call (name : String)
deriving DecidableEq, Repr

/-- The operations that bind at least as tightly as `level`, applied to an expression as their
right operand. -/
def apply (level : Nat) : List Frame → Expr → List Frame × Expr
  | .operand op left :: fs, e =>
    if level ≤ op.level then apply level fs (.binary op left e) else (.operand op left :: fs, e)
  | fs, e => (fs, e)

/-- The arguments before a comma with the expression after it. -/
def collect : List Frame → Expr → List Frame × Expr
  | .comma args :: fs, e => (fs, .also args e)
  | fs, e => (fs, e)

/-- The expression that ends with a parenthesis. -/
def close (fs : List Frame) (e : Expr) : Option (List Frame × Expr) :=
  match collect (apply 0 fs e).1 (apply 0 fs e).2 with
  | (.parenthesis :: fs, e) => some (fs, e)
  | (.call f :: fs, args) => some (fs, .call f args)
  | _ => none

/-- The expression of tokens, after the given frames, the innermost first, and perhaps a complete
operand. -/
def ofTokens? : List Frame → Option Expr → List Token → Option Expr
  | fs, none, .number n :: ts => ofTokens? fs (some (.number n)) ts
  | fs, none, .word x :: ts => ofTokens? fs (some (.variable x)) ts
  | fs, none, .symbol '(' :: ts => ofTokens? (.parenthesis :: fs) none ts
  | .call f :: fs, none, .symbol ')' :: ts => ofTokens? fs (some (.call f .nothing)) ts
  | fs, some (.variable f), .symbol '(' :: ts => ofTokens? (.call f :: fs) none ts
  | fs, some e, .symbol '.' :: .word letters :: ts => ofTokens? fs (some (.select e letters)) ts
  | fs, some e, .symbol ',' :: ts =>
    let (fs, e) := apply 0 fs e
    let (fs, args) := collect fs e
    ofTokens? (.comma args :: fs) none ts
  | fs, some e, .symbol ')' :: ts => do
    let (fs, e) ← close fs e
    ofTokens? fs (some e) ts
  | fs, some e, .symbol c :: ts => do
    let op ← Arithmetic.ofChar? c
    let (fs, left) := apply op.level fs e
    ofTokens? (.operand op left :: fs) none ts
  | fs, some e, [] =>
    let (fs, e) := apply 0 fs e
    let (fs, e) := collect fs e
    if fs.isEmpty then some e else none
  | _, _, _ => none

/-- The expression that a text writes. -/
def read? (text : String) : Option Expr := ofTokens? [] none (tokens text.toList)

/-- The position of the component that a letter selects. -/
def position? : Char → Option Nat
  | 'x' | 'r' => some 0
  | 'y' | 'g' => some 1
  | 'z' | 'b' => some 2
  | 'w' | 'a' => some 3
  | _ => none

/-- The functions of the language, on integers: the minimum, and vectors of their components. -/
def builtin? : String → List Int → Option (List Int)
  | "min", [i, j] => some [min i j]
  | "ivec2", [x, y] => some [x, y]
  | "ivec3", [x, y, z] => some [x, y, z]
  | "ivec4", [x, y, z, w] => some [x, y, z, w]
  | _, _ => none

/-- The value of an expression. Calls of functions that are not part of the language have the values
that `calls` gives them, and variables those in `scope`. -/
def eval (calls : String → List Int → Option (List Int)) (scope : List (String × List Int)) :
    Expr → Option (List Int)
  | .number n => some [n]
  | .variable x => scope.lookup x
  | .select e letters => do
    let vs ← e.eval calls scope
    letters.toList.mapM fun letter => (position? letter).bind (vs[·]?)
  | .binary op left right =>
    match left.eval calls scope, right.eval calls scope with
    | some [i], some [j] => (op.onInts? i j).map ([·])
    | _, _ => none
  | .nothing => some []
  | .also args e => do return (← args.eval calls scope) ++ (← e.eval calls scope)
  | .call f args => do
    let vs ← args.eval calls scope
    builtin? f vs <|> calls f vs

/-- The arguments with one for each dimension. -/
def ofNchw (args : Nchw Expr) : Expr := .also (.also (.also args.n args.c) args.h) args.w

theorem eval_ofNchw {calls : String → List Int → Option (List Int)}
    {scope : List (String × List Int)} {args : Nchw Expr} {p : Nchw Nat}
    (h : ∀ d, (args.get d).eval calls scope = some [(p.get d : Int)]) :
    (ofNchw args).eval calls scope = some p.vector := by
  have hn : args.n.eval calls scope = _ := h .n
  have hc : args.c.eval calls scope = _ := h .c
  have hh : args.h.eval calls scope = _ := h .h
  have hw : args.w.eval calls scope = _ := h .w
  simp only [ofNchw, eval, hn, hc, hh, hw]
  rfl

end Expr

/-- The value of an expression without calls of other functions. -/
def valueOf? (scope : List (String × List Int)) (text : String) : Option (List Int) := do
  (← Expr.read? text).eval (fun _ _ => none) scope

end Shader

end TensorShader
