import TensorShader.Template.BinaryOp

/-! Expressions. An operation on literals that has a result is that literal: expressions are built
with `Expr.binaryOf`, `Expr.chainOf`, `Expr.oppositeOf` and `Expr.complementOf`, which see to it. -/

namespace TensorShader.Template

/-- A value that tokens write. -/
inductive Literal where
  | none
  | bool (b : Bool)
  | number (x : Number)
  | string (s : String)
deriving DecidableEq, Repr

namespace Literal

def value : Literal → Value
  | .none => .none
  | .bool b => .bool b
  | .number x => .number x
  | .string s => .string s

/-- The literal of a value, if it has one. -/
def ofValue? : Value → Option Literal
  | .none => some .none
  | .bool b => some (.bool b)
  | .number x => some (.number x)
  | .string s => some (.string s)
  | _ => Option.none

theorem ofValue?_value (l : Literal) : ofValue? l.value = some l := by cases l <;> rfl

theorem value_of_ofValue? {v : Value} {l : Literal} (h : ofValue? v = some l) : l.value = v := by
  cases v <;> simp_all [ofValue?] <;> subst h <;> rfl

/-- The result of an operator on two literals. `and` results in `False` if one of them is not
true. -/
def apply (op : BinaryOp) (a b : Literal) : Except Cause Value :=
  match op with
  | .and => .ok (if a.value.isTruthy && b.value.isTruthy then b.value else .bool false)
  | .or => .ok (if a.value.isTruthy then a.value else b.value)
  | op => op.apply a.value b.value

end Literal

/-- An expression. The lines are those of its variables, its literals, its indices, and its
signs. -/
inductive Expr where
  | variable (name : String) (line : Nat)
  | literal (l : Literal) (line : Nat)
  | attribute (e : Expr) (name : String)
  | item (e : Expr) (index : Nat) (line : Nat)
  | filter (e : Expr) (name : String)
  | opposite (e : Expr) (line : Nat)
  | complement (e : Expr)
  | binary (op : BinaryOp) (left right : Expr)
deriving DecidableEq, Repr, Inhabited

namespace Expr

/-- The line at which a fault of the outermost operation is reported: that of the last variable,
literal or index. -/
def line : Expr → Nat
  | .variable _ line | .literal _ line | .item _ _ line => line
  | .attribute e _ | .filter e _ | .opposite e _ | .complement e | .binary _ _ e => e.line

/-- The literal that an expression is. -/
def literal? : Expr → Option Literal
  | .literal l _ => some l
  | _ => none

theorem literal?_eq_some {e : Expr} {l : Literal} (h : e.literal? = some l) :
    ∃ line, e = .literal l line := by
  cases e <;> simp_all [literal?]

/-- A result as a literal on a line, or else an expression. -/
def orLiteral (e : Expr) (line : Nat) (result : Except Cause Value) : Expr :=
  match result.toOption.bind Literal.ofValue? with
  | some l => .literal l line
  | none => e

/-- An expression is replaced only by the literal of its result. -/
theorem orLiteral_eq (e : Expr) (line : Nat) (result : Except Cause Value) :
    e.orLiteral line result = e ∨
      ∃ l, result = .ok l.value ∧ e.orLiteral line result = .literal l line := by
  unfold orLiteral
  split
  · rename_i l h
    obtain ⟨v, hv, hl⟩ := Option.bind_eq_some_iff.1 h
    refine .inr ⟨l, ?_, rfl⟩
    cases result <;> simp_all [Except.toOption, Literal.value_of_ofValue? hl]
  · exact .inl rfl

/-- An operator applied to two expressions; the line is that of a literal result. -/
def binaryOf (op : BinaryOp) (a b : Expr) (line : Nat) : Expr :=
  match a.literal?, b.literal? with
  | some l, some r => orLiteral (.binary op a b) line (Literal.apply op l r)
  | _, _ => .binary op a b

/-- A chain of comparisons, of which `held` are the first ones, with one more operator between the
latest operand and the next. A chain whose first comparisons are literals goes on only while they
hold. The line is that of a literal result. -/
def chainOf (held : Expr) (op : BinaryOp) (a b : Expr) (line : Nat) : Expr :=
  match held.literal? with
  | some l => if l.value.isTruthy then binaryOf op a b line else held
  | none => .binary .and held (.binary op a b)

def oppositeOf (e : Expr) (line : Nat) : Expr :=
  match e.literal? with
  | some l => orLiteral (.opposite e line) line (negated l.value)
  | none => .opposite e line

/-- `not` on a line applied to an expression. -/
def complementOf (e : Expr) (line : Nat) : Expr :=
  match e.literal? with
  | some l => .literal (.bool !l.value.isTruthy) line
  | none => .complement e

end Expr

end TensorShader.Template
