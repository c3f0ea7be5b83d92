import TensorShader.Template.Basic

/-! How templates are rendered: expressions are evaluated in a context, a map of named values, and
their texts take their places. An undefined value may be neither written nor tested. -/

namespace TensorShader.Template

/-- The characters that tell a literal of floating-point type from one of an integer. -/
def isPointOrExponent (c : Char) : Bool := c == '.' || c == 'e' || c == 'E'

/-- The text of a number as a literal of floating-point type in shader source: digits with a
decimal point or an exponent. -/
def floatLiteral (x : Binary64) : String :=
  let text := x.text .literal
  if text.toList.any isPointOrExponent || !x.isFinite then text else text ++ ".0"

/-- The text of a finite number has a decimal point or an exponent already. -/
theorem any_isPointOrExponent {x : Binary64} (hx : x.isFinite = true) :
    (x.text .literal).toList.any isPointOrExponent = true := by
  have hdigits : (Binary64.magnitudeText .literal x.magnitude).any isPointOrExponent = true := by
    rw [List.any_eq_true]
    rcases Binary64.mem_magnitudeText .literal x.magnitude with h | h
    · exact ⟨_, h, by decide⟩
    · exact ⟨_, h, by decide⟩
  rw [Binary64.toList_text hx]
  split
  · rw [List.any_cons, hdigits, Bool.or_true]
  · exact hdigits

/-- Nothing is ever appended: the text of a number is its literal. -/
theorem floatLiteral_eq (x : Binary64) : floatLiteral x = x.text .literal := by
  unfold floatLiteral
  cases hx : x.isFinite with
  | true => simp [any_isPointOrExponent hx]
  | false => simp

/-- The floating-point number that a value is passed to a filter as. -/
def floatArgument? : Value → Option Binary64
  | .number x => some x.toFloat
  | _ => none

def applyFilter (name : String) (v : Value) : Except Cause Value :=
  if name = "glsl_float" then
    match floatArgument? v with
    | some x => .ok (.string (floatLiteral x))
    | none => .error (.misuse (.conversion v.kind))
  else .error (.unknownFilter name)

/-- The truth of a value that is tested. -/
def truth : Value → Except Cause Bool
  | .undefined => .error .undefinedValue
  | v => .ok v.isTruthy

def attributeOf (v : Value) (name : String) : Except Cause Value :=
  match v with
  | .undefined => .error .undefinedValue
  | v => .ok (v.field name)

def itemOf (v : Value) (index : Nat) : Except Cause Value :=
  match v with
  | .undefined => .error .undefinedValue
  | v => .ok (v.item index)

/-- The text of a value that is written. -/
def written : Value → Except Cause String
  | .undefined => .error .undefinedValue
  | v => .ok v.text

/-- A result whose cause of failure is located. -/
def located {α : Type} (line : Nat) (r : Except Cause α) : Except Fault α :=
  r.mapError fun cause => ⟨cause, line⟩

theorem located_ok {α : Type} (line : Nat) (a : α) : located line (.ok a) = .ok a := rfl

theorem located_error {α : Type} (line : Nat) (cause : Cause) :
    located line (.error cause : Except Cause α) = .error ⟨cause, line⟩ := rfl

/-- The value of an expression in a context. -/
def Expr.eval (ctx : Value) : Expr → Except Fault Value
  | .variable name _ => .ok (ctx.resolve name)
  | .literal l _ => .ok l.value
  | .attribute e name => do located e.line (attributeOf (← e.eval ctx) name)
  | .item e index line => do located line (itemOf (← e.eval ctx) index)
  | .filter e name => do located e.line (applyFilter name (← e.eval ctx))
  | .opposite e line => do located line (negated (← e.eval ctx))
  | .complement e => do return .bool !(← located e.line (truth (← e.eval ctx)))
  | .binary .and a b => do
    let v ← a.eval ctx
    if ← located a.line (truth v) then b.eval ctx else return v
  | .binary .or a b => do
    let v ← a.eval ctx
    if ← located a.line (truth v) then return v else b.eval ctx
  | .binary op a b => do
    let v ← a.eval ctx
    located b.line (op.apply v (← b.eval ctx))

theorem truth_literal (l : Literal) : truth l.value = .ok l.value.isTruthy := by cases l <;> rfl

/-- Replacing an operation on literals by its result changes no value, but for an `and` that does
not hold, whose result is then `False`. -/
theorem Expr.eval_binaryOf {op : BinaryOp} (h : op ≠ .and) (ctx : Value) (a b : Expr)
    (line : Nat) : (binaryOf op a b line).eval ctx = (Expr.binary op a b).eval ctx := by
  unfold binaryOf
  split
  · rename_i l r ha hb
    obtain ⟨_, rfl⟩ := literal?_eq_some ha
    obtain ⟨_, rfl⟩ := literal?_eq_some hb
    rcases orLiteral_eq (.binary op (.literal l _) (.literal r _)) line (Literal.apply op l r)
      with he | ⟨k, hk, he⟩ <;> rw [he]
    cases op <;> simp_all [Expr.eval, Literal.apply, located_ok, bind, Except.bind, pure,
      Except.pure, truth_literal]
    split <;> simp_all
  · rfl

/-- Replacing `and` of two true literals by its result changes no value. -/
theorem Expr.eval_binaryOf_and {l r : Literal} (hl : l.value.isTruthy = true)
    (hr : r.value.isTruthy = true) (ctx : Value) (m n line : Nat) :
    (binaryOf .and (.literal l m) (.literal r n) line).eval ctx =
      (Expr.binary .and (.literal l m) (.literal r n)).eval ctx := by
  rcases orLiteral_eq (.binary .and (.literal l m) (.literal r n)) line (Literal.apply .and l r)
    with he | ⟨k, hk, he⟩ <;> simp [binaryOf, literal?, he]
  simp_all [Expr.eval, Literal.apply, located_ok, bind, Except.bind, truth_literal]

/-- A chain has the value of its first comparisons if they do not hold, and otherwise that of the
last one. -/
theorem Expr.eval_chainOf {op : BinaryOp} (h : op ≠ .and) (ctx : Value) (held a b : Expr)
    (line : Nat) :
    (chainOf held op a b line).eval ctx = (Expr.binary .and held (.binary op a b)).eval ctx := by
  unfold chainOf
  split
  · rename_i l hl
    obtain ⟨_, rfl⟩ := literal?_eq_some hl
    split <;> rename_i ht
    · rw [eval_binaryOf h]
      simp [Expr.eval, located_ok, bind, Except.bind, truth_literal, ht]
    · simp [Expr.eval, located_ok, bind, Except.bind, truth_literal, ht, pure, Except.pure]
  · rfl

/-- Replacing the opposite of a literal by its result changes no value. -/
theorem Expr.eval_oppositeOf (ctx : Value) (e : Expr) (line : Nat) :
    (oppositeOf e line).eval ctx = (Expr.opposite e line).eval ctx := by
  unfold oppositeOf
  split
  · rename_i l he
    obtain ⟨_, rfl⟩ := literal?_eq_some he
    rcases orLiteral_eq (.opposite (.literal l _) line) line (negated l.value)
      with he | ⟨k, hk, he⟩ <;> rw [he]
    simp [Expr.eval, located_ok, bind, Except.bind, hk]
  · rfl

/-- Replacing the complement of a literal by its result changes no value. -/
theorem Expr.eval_complementOf (ctx : Value) (e : Expr) (line : Nat) :
    (complementOf e line).eval ctx = (Expr.complement e).eval ctx := by
  unfold complementOf
  split
  · rename_i l he
    obtain ⟨_, rfl⟩ := literal?_eq_some he
    cases l <;> rfl
  · rfl

/-- The text that a template writes in a context. -/
def fill (ctx : Value) : Template → Except Fault String
  | .done => .ok ""
  | .text s rest => do return s ++ (← rest.fill ctx)
  | .output e rest => do
    let s ← located e.line (written (← e.eval ctx))
    return s ++ (← rest.fill ctx)
  | .choice test yes no rest => do
    let s ← if ← located test.line (truth (← test.eval ctx)) then yes.fill ctx else no.fill ctx
    return s ++ (← rest.fill ctx)

/-- The text that a template's source writes in a context. -/
def render (source : String) (ctx : Value) : Except Fault String := do (← parse source).fill ctx

end TensorShader.Template
