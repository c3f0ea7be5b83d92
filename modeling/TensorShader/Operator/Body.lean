import TensorShader.Operator.Descriptor
import TensorShader.Subroutine.Fragment
import TensorShader.Tensor.Coord

/-! Operators, and how their bodies are made for one use. Any function of the layouts and parameters
may make a body. The operators that come with the library check them by a rule, and then their
templates are rendered with them. -/

namespace TensorShader

/-- The integer under a name, as an operator needs it. -/
def Params.int (ps : Params) (operator name : String) : Except Error Int :=
  match ps.find? name with
  | some (.int i) => .ok i
  | some p => .error (.unrenderable operator (.notInteger name p))
  | none => .error (.unrenderable operator (.missingParam name))

/-- The arithmetic operations on elements. -/
inductive Arithmetic where
  | add | sub | mul | div
deriving DecidableEq, Repr

def Arithmetic.symbol : Arithmetic → String
  | .add => "+"
  | .sub => "-"
  | .mul => "*"
  | .div => "/"

/-- What the body of an operator may read. -/
structure BodyContext where
  operator : String
  layouts : LayoutTable
  params : Params
  /-- The arguments of the call that reads the broadcast operand, if there is one. -/
  broadcastArgs : Option String

namespace BodyContext

/-- The vector that holds the coordinate at which the broadcast operand is read. -/
def coordVar : String := "oPos"

def of (d : Descriptor) (layouts : LayoutTable) (params : Params) : Except Error BodyContext :=
  if d.broadcasts then do
    let axis ← params.int d.name "axis"
    return ⟨d.name, layouts, params, some ((Alignment.ofParam axis).readArgs coordVar)⟩
  else .ok ⟨d.name, layouts, params, none⟩

/-- The context as a template reads it, with further values. -/
def value (ctx : BodyContext) (more : List (String × Template.Value)) : Template.Value :=
  .map ([("broadcast_args", ctx.broadcastArgs.elim .none .string),
    ("inputs", ctx.layouts.inputs.value LayoutRecord.value), ("op", .string ctx.operator),
    ("output", ctx.layouts.output.value), ("params", ctx.params.value Param.value)] ++ more)

end BodyContext

/-- An operator: its declaration, the template of its body, and how the body is made for one use. An
operator that has no way of its own renders its template. -/
structure Operator where
  descriptor : Descriptor
  template : String
  renderBody : BodyContext → Except Error String :=
    fun ctx => renderNamed descriptor.name template (ctx.value [])

/-- What an operator checks and adds before its template is rendered. -/
inductive BodyRule where
  /-- Nothing. -/
  | plain
  /-- The first operand is shaped like the output; the operation is added. -/
  | elementwise (a : Arithmetic)
  /-- The slice lies inside the first operand; the axis is added. -/
  | split
deriving DecidableEq, Repr

namespace Operator

/-- The binding of the first operand of the operators that check it. -/
def originKey : String := "origin"

/-- The axis of a slice, after its check. The extents of the first operand and the output agree on
the other axes, and the slice starts and ends inside the operand. -/
def splitAxis (ctx : BodyContext) (operator : String) : Except Error Axis := do
  let rawAxis ← ctx.params.int operator "axis"
  let offset ← ctx.params.int operator "offset"
  if rawAxis < -4 ∨ 4 ≤ rawAxis then .error (.unrenderable operator (.axisOutside rawAxis))
  else
    let axis := Axis.ofInt rawAxis
    let input := (← ctx.layouts.get originKey).shape.dims
    let output := ctx.layouts.output.shape.dims
    if Axis.all.any fun d => d ≠ axis ∧ input.get d ≠ output.get d then
      .error (.invalidShape ⟨output.toList, .splitMismatch⟩)
    else if offset < 0 ∨ (input.get axis : Int) < offset + output.get axis then
      .error (.unrenderable operator
        (.sliceOutside (output.get axis) offset (input.get axis) axis))
    else .ok axis

end Operator

namespace BodyRule

/-- The values that a rule adds to the context of an operator's template, after its checks. -/
def additions (rule : BodyRule) (operator : String) (ctx : BodyContext) :
    Except Error (List (String × Template.Value)) :=
  match rule with
  | .plain => .ok []
  | .elementwise a => do
    let origin ← ctx.layouts.get Operator.originKey
    if origin.shape = ctx.layouts.output.shape then .ok [("symbol", .string a.symbol)]
    else .error (.invalidShape ⟨origin.shape.dims.toList, .elementwiseMismatch⟩)
  | .split => do
    let axis ← Operator.splitAxis ctx operator
    return [("lane", .string axis.lane)]

def render (rule : BodyRule) (operator template : String) (ctx : BodyContext) :
    Except Error String := do
  let more ← rule.additions operator ctx
  renderNamed operator template (ctx.value more)

end BodyRule

/-- An operator whose body is made by a rule. -/
structure RuledOperator extends Operator where
  rule : BodyRule
  renderBody := rule.render descriptor.name template
  renderBody_eq : renderBody = rule.render descriptor.name template := by rfl

instance : Coe RuledOperator Operator := ⟨RuledOperator.toOperator⟩

end TensorShader
