import TensorShader.Template.Comparison
import TensorShader.Template.Fault
import TensorShader.Template.Written

/-! Operators on values: arithmetic, comparisons, containment, and the sign. Arithmetic finds no
operator for an undefined value, as for any kind that it does not take; a comparison refuses an
undefined value for what it is. -/

namespace TensorShader.Template

/-- The operators with two operands. -/
inductive BinaryOp where
  | or | and | eq | ne | lt | le | gt | ge | isIn | notIn
  | add | sub | mul | div | quotient | remainder
deriving DecidableEq, Repr

namespace BinaryOp

def symbol : BinaryOp → String
  | .or => "or"
  | .and => "and"
  | .eq => "=="
  | .ne => "!="
  | .lt => "<"
  | .le => "<="
  | .gt => ">"
  | .ge => ">="
  | .isIn => "in"
  | .notIn => "not in"
  | .add => "+"
  | .sub => "-"
  | .mul => "*"
  | .div => "/"
  | .quotient => "//"
  | .remainder => "%"

def comparisonLevel : Nat := 4

def level : BinaryOp → Nat
  | .or => 1
  | .and => 2
  | .eq | .ne | .lt | .le | .gt | .ge | .isIn | .notIn => comparisonLevel
  | .add | .sub => 5
  | .mul | .div | .quotient | .remainder => 6

def isComparison (op : BinaryOp) : Bool := op.level == comparisonLevel

/-- The result of an arithmetic operator on integers. Quotient and remainder are those that leave
no remainder below zero, and the remainder has a result only if the quotient has one. -/
def onInts? (op : BinaryOp) (i j : Int) : Option Int :=
  match op with
  | .add => some (i + j)
  | .sub => some (i - j)
  | .mul => some (i * j)
  | .quotient => if j = 0 then none else some (i / j)
  | .remainder =>
    if j = 0 ∨ !IntFormat.signed128.holds (i / j) then none else some (i % j)
  | _ => none

/-- The result of an arithmetic operator on floating-point numbers. The quotient leaves no
remainder below zero, but the remainder has the sign of the first operand. -/
def onFloats (op : BinaryOp) (x y : Binary64) : Binary64 :=
  match op with
  | .add => x.add y
  | .sub => x.sub y
  | .mul => x.mul y
  | .div => x.div y
  | .quotient => x.ediv y
  | .remainder => x.rem y
  | _ => .nan

/-- The result of an arithmetic operator on numbers. Division is on floating-point numbers; any
other operator is so only if an operand is. -/
def onNumbers (op : BinaryOp) (a b : Value) : Except Cause Value :=
  match a.number?, b.number? with
  | some (.int i), some (.int j) =>
    if op = .div then .ok (.float ((Binary64.ofInt i.value).div (.ofInt j.value)))
    else
      match i.operands? j with
      | none => .error (.misuse (.operands op.symbol a.kind b.kind))
      | some (x, y) =>
        match (op.onInts? x y).bind (Integer.ofInt? IntFormat.computed) with
        | some k => .ok (.number (.int k))
        | none => .error (.misuse (.result op.symbol a.text b.text))
  | some x, some y => .ok (.float (op.onFloats x.toFloat y.toFloat))
  | _, _ => .error (.misuse (.operands op.symbol a.kind b.kind))

/-- The greatest length, in bytes, of a string that repetition makes. -/
def repeatedSizeLimit : Nat := 100000000

/-- A string repeated as often as a value says. -/
def repeatString (s : String) (times : Value) : Except Cause Value :=
  match times.number?.bind Number.count? with
  | some n =>
    if s = "" then .ok (.string "")
    else if repeatedSizeLimit < n * s.utf8ByteSize then .error (.misuse .repeatedSize)
    else .ok (.string (n.repeat (· ++ s) ""))
  | none => .error (.misuse (.repetition .string))

def repeatItems (items : List Value) (times : Value) : Except Cause Value :=
  match times.number?.bind Number.count? with
  | some n => .ok (.iterable (if items.isEmpty then [] else (List.replicate n items).flatten))
  | none => .error (.misuse (.repetition .sequence))

def items? : Value → Option (List Value)
  | .sequence items | .iterable items => some items
  | _ => none

/-- Whether a value has parts other than characters. -/
def isObject : Value → Bool
  | .sequence _ | .iterable _ | .map _ | .function _ => true
  | _ => false

/-- The sum of two values: texts and items are put one after the other. -/
def sum (a b : Value) : Except Cause Value :=
  match a, b, items? a, items? b with
  | .string s, .string t, _, _ => .ok (.string (s ++ t))
  | _, _, some xs, some ys => .ok (.iterable (xs ++ ys))
  | a, b, _, _ => onNumbers .add a b

/-- The product of two values: a text or items are repeated. A text is repeated whatever the other
operand is; without a text, the first operand that has parts is the one to repeat. -/
def product (a b : Value) : Except Cause Value :=
  match a, b with
  | .string s, v | v, .string s => repeatString s v
  | a, b =>
    let (object, times) := if isObject a then (a, b) else (b, a)
    match items? object with
    | some items => repeatItems items times
    | none => onNumbers .mul a b

/-- Whether characters occur side by side in others. -/
def occursIn (t : List Char) : List Char → Bool
  | [] => t.isEmpty
  | c :: cs => t.isPrefixOf (c :: cs) || occursIn t cs

/-- Whether a value contains another: a string a text, a sequence or an iterable an item, and a map
a name. -/
def containment (container v : Value) : Except Cause Bool :=
  match container with
  | .string s => .ok (occursIn v.text.toList s.toList)
  | .sequence items | .iterable items => .ok (items.any fun item => item.eqv v)
  | .map _ =>
    match v with
    | .string name => .ok (container.field? name).isSome
    | _ => .ok false
  | .function _ => .ok false
  | _ => .error (.misuse .containment)

/-- The result of a comparison. -/
def compared (op : BinaryOp) (a b : Value) : Except Cause Bool :=
  match op, a, b with
  | _, .undefined, _ | _, _, .undefined => .error .undefinedValue
  | .eq, a, b => .ok (a.eqv b)
  | .ne, a, b => .ok !(a.eqv b)
  | .lt, a, b => .ok (a.order b).isLT
  | .le, a, b => .ok (a.order b).isLE
  | .gt, a, b => .ok (a.order b).isGT
  | .ge, a, b => .ok (a.order b).isGE
  | .notIn, a, b => not <$> containment b a
  | _, a, b => containment b a

/-- The result of an operator that evaluates both operands. -/
def apply (op : BinaryOp) (a b : Value) : Except Cause Value :=
  if op.isComparison then .bool <$> op.compared a b
  else
    match op with
    | .add => sum a b
    | .mul => product a b
    | op => op.onNumbers a b

end BinaryOp

/-- A value with the opposite sign. The integer `2^127`, unsigned, is its own opposite. -/
def negated : Value → Except Cause Value
  | .number (.int i) =>
    if i.format = .unsigned128 ∧ i.value = IntFormat.signed128.greatest + 1 then
      .ok (.number (.int i))
    else
      match i.signed? with
      | none => .error (.misuse .opposite)
      | some k =>
        match Integer.ofInt? IntFormat.computed (-k) with
        | some j => .ok (.number (.int j))
        | none => .error (.misuse .overflow)
  | .number (.float x) => .ok (.float x.neg)
  | _ => .error (.misuse .opposite)

end TensorShader.Template
