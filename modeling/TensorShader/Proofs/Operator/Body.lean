import TensorShader.Operator.Builtin
import TensorShader.Proofs.Shader.Token
import TensorShader.Proofs.Template.Fill

/-! The bodies of the operators that come with the library: their templates, when they are written,
and their texts. -/

namespace TensorShader

open Template (Expr)

theorem NameMap.field?_value {α : Type} (m : NameMap α) (f : α → Template.Value) (name : String) :
    (m.value f).field? name = (m.find? name).map f := by
  show (m.entries.map fun e => (e.1, f e.2)).lookup name = (m.entries.lookup name).map f
  induction m.entries with
  | nil => rfl
  | cons e es ih =>
    rw [List.map_cons, lookup_cons_ite, lookup_cons_ite, ih]
    split <;> rfl

/-- The floating-point number that a parameter is written as, if it is a number. -/
def Param.asFloat? : Param → Option Binary64
  | .int i => some (.ofInt i)
  | .float x => some x
  | .bool _ => none

/-- A parameter, as a template reads it. -/
def paramExpr (name : String) (line : Nat) : Expr := .attribute (.variable "params" line) name

/-- A parameter that a template writes as a literal of floating-point type. -/
def floatExpr (name : String) (line : Nat) : Expr := .filter (paramExpr name line) "glsl_float"

section Params

variable {ctx : BodyContext} {more : List (String × Template.Value)} {name : String} {q : Param}

theorem eval_paramExpr (h : ctx.params.find? name = some q) (line : Nat) :
    (paramExpr name line).eval (ctx.value more) = .ok q.value := by
  have hfield : (ctx.params.value Param.value).field? name = some q.value := by
    rw [NameMap.field?_value, h]
    rfl
  have heval : (paramExpr name line).eval (ctx.value more) =
      .ok ((ctx.params.value Param.value).field name) := rfl
  rw [heval, Template.Value.field, hfield]
  rfl

theorem eval_floatExpr {x : Binary64} (h : ctx.params.find? name = some q)
    (hx : q.asFloat? = some x) (line : Nat) :
    (floatExpr name line).eval (ctx.value more) = .ok (.string (Template.floatLiteral x)) := by
  rw [floatExpr, Expr.eval, eval_paramExpr h]
  cases q <;> cases hx <;> rfl

theorem asFloat?_of_eval {v : Template.Value} {line : Nat} (h : ctx.params.find? name = some q)
    (hv : (floatExpr name line).eval (ctx.value more) = .ok v) : ∃ x, q.asFloat? = some x := by
  rw [floatExpr, Expr.eval, eval_paramExpr h] at hv
  cases q with
  | int i => exact ⟨_, rfl⟩
  | float x => exact ⟨_, rfl⟩
  | bool b => cases hv

theorem truth_value (q : Param) : Template.truth q.value = .ok q.value.isTruthy := by
  cases q <;> rfl

end Params

theorem renderNamed_of_parse {source : String} {template : Template}
    (h : Template.parse source = .ok template) (name : String) (ctx : Template.Value) :
    renderNamed name source ctx =
      (template.fill ctx).mapError fun f => .unrenderable name (.template f) := by
  rw [renderNamed, Template.render, h]
  rfl

namespace Operator

/-- A text with a function `main`, of which words stand between texts. -/
def mainText (front : String) (texts words : List String) : String :=
  front ++ ("main" ++ ("(" ++ Shader.weave texts words))

/-- The body of `main` up to the arguments at which the broadcast operand is read. -/
def elementwiseStart : String :=
  ") \x7b\n    ivec4 oPos1 = getOutputTensorPos();\n" ++
    "    float o = getValueFromTensorPos_origin(oPos1.r, oPos1.g, oPos1.b, oPos1.a);\n" ++
    "    ivec4 oPos = formatNCHW_counter(oPos1.r, oPos1.g, oPos1.b, oPos1.a);\n" ++
    "    float c = getValueFromTensorPos_counter("

def elementwiseTemplate : Template :=
  .text "const int AXIS = " <| .output (paramExpr "axis" 1) <|
  .text (";\n\nvoid " ++ ("main" ++ ("(" ++ elementwiseStart))) <|
  .output (.variable "broadcast_args" 7) <| .text ");\n    float res = o " <|
  .output (.variable "symbol" 8) <| .text " c;\n    setOutput(res);\n\x7d" .done

theorem parse_elementwiseSource : Template.parse elementwiseSource = .ok elementwiseTemplate := by
  rw [elementwiseSource, Template.parse_lines]
  simp only [List.map_cons, List.map_nil, String.reduceToList]
  decide +kernel

def elementwiseTexts : List String :=
  [elementwiseStart, ");\n    float res = o ", " c;\n    setOutput(res);\n\x7d"]

def elementwiseFront (axis : Int) : String := "const int AXIS = " ++ (toString axis ++ ";\n\nvoid ")

def elementwiseBody (axis : Int) (args : String) (a : Arithmetic) : String :=
  mainText (elementwiseFront axis) elementwiseTexts [args, a.symbol]

/-- The body of `main` up to the declaration of the result. -/
def scaleStart : String :=
  ") \x7b\n    ivec4 oPos = getOutputTensorPos();\n" ++
    "    float x = getValueFromTensorPos_origin(oPos.r, oPos.g, oPos.b, oPos.a);\n"

def scaleEnd : String := "    setOutput(res);\n\x7d"

def scaleTemplate : Template :=
  .text ("void " ++ ("main" ++ ("(" ++ scaleStart))) <|
  .choice (paramExpr "bias_after_scale" 4)
    (.text "    float res = " <| .output (floatExpr "scale" 5) <| .text " * x + " <|
      .output (floatExpr "bias" 5) <| .text ";\n" .done)
    (.text "    float res = " <| .output (floatExpr "scale" 7) <| .text " * (x + " <|
      .output (floatExpr "bias" 7) <| .text ");\n" .done)
    (.text scaleEnd .done)

theorem parse_scaleSource : Template.parse scaleSource = .ok scaleTemplate := by
  rw [scaleSource, Template.parse_lines]
  simp only [List.map_cons, List.map_nil, String.reduceToList]
  decide +kernel

/-- The texts around the factor and the bias, which is added after or before the product. -/
def scaleTexts (after : Bool) : List String :=
  if after then [scaleStart ++ "    float res = ", " * x + ", ";\n" ++ scaleEnd]
  else [scaleStart ++ "    float res = ", " * (x + ", ");\n" ++ scaleEnd]

def scaleBody (after : Bool) (factor bias : Binary64) : String :=
  mainText "void " (scaleTexts after)
    [Template.floatLiteral factor, Template.floatLiteral bias]

/-- The body of `main` up to the component in which a slice is read further on. -/
def splitStart : String := ") \x7b\n    ivec4 oPos = getOutputTensorPos();\n    oPos."

def splitEnd : String :=
  ";\n    setOutput(getValueFromTensorPos_origin(oPos.r, oPos.g, oPos.b, oPos.a));\n\x7d"

def splitTemplate : Template :=
  .text ("void " ++ ("main" ++ ("(" ++ splitStart))) <| .output (.variable "lane" 3) <|
  .text " += " <| .output (paramExpr "offset" 3) <| .text splitEnd .done

theorem parse_splitSource : Template.parse splitSource = .ok splitTemplate := by
  rw [splitSource, Template.parse_lines]
  simp only [List.map_cons, List.map_nil, String.reduceToList]
  decide +kernel

def splitBody (axis : Axis) (offset : Int) : String :=
  mainText "void " [splitStart, " += ", splitEnd] [axis.lane, toString offset]

variable {ctx : BodyContext} {x : LayoutRecord} {axis offset : Int}

theorem fill_elementwiseTemplate {args : String}
    (haxis : ctx.params.find? "axis" = some (.int axis)) (hargs : ctx.broadcastArgs = some args) (a : Arithmetic) :
    elementwiseTemplate.fill (ctx.value [("symbol", .string a.symbol)]) =
      .ok (elementwiseBody axis args a) := by
  have hvalue : (Expr.variable "broadcast_args" 7).eval (ctx.value [("symbol", .string a.symbol)]) =
      .ok (.string args) := by
    have helim : (Expr.variable "broadcast_args" 7).eval
        (ctx.value [("symbol", .string a.symbol)]) =
        .ok (ctx.broadcastArgs.elim Template.Value.none Template.Value.string) := rfl
    rw [helim, hargs]
    rfl
  rw [elementwiseTemplate, Template.fill_text, Template.fill_output (eval_paramExpr haxis 1) rfl,
    Template.fill_text, Template.fill_output hvalue rfl, Template.fill_text,
    Template.fill_output (v := .string a.symbol) rfl rfl, Template.fill_text, Template.fill]
  simp only [Functor.map, Except.map, elementwiseBody, mainText, elementwiseFront,
    elementwiseTexts, Shader.weave, String.append_assoc, String.append_empty]
  rfl

theorem fill_splitTemplate (hoffset : ctx.params.find? "offset" = some (.int offset)) (d : Axis) :
    splitTemplate.fill (ctx.value [("lane", .string d.lane)]) = .ok (splitBody d offset) := by
  rw [splitTemplate, Template.fill_text, Template.fill_output (v := .string d.lane) rfl rfl,
    Template.fill_text, Template.fill_output (eval_paramExpr hoffset 3) rfl, Template.fill_text,
    Template.fill]
  simp only [Functor.map, Except.map, splitBody, mainText, Shader.weave, String.append_assoc,
    String.append_empty]
  rfl

theorem fill_scaleTemplate {factor bias after : Param} {s b : Binary64}
    (hfactor : ctx.params.find? "scale" = some factor) (hs : factor.asFloat? = some s)
    (hbias : ctx.params.find? "bias" = some bias) (hb : bias.asFloat? = some b)
    (hafter : ctx.params.find? "bias_after_scale" = some after) :
    scaleTemplate.fill (ctx.value []) = .ok (scaleBody after.value.isTruthy s b) := by
  have hscale (line : Nat) (rest : Template) :
      (Template.output (floatExpr "scale" line) rest).fill (ctx.value []) =
        (Template.floatLiteral s ++ ·) <$> rest.fill (ctx.value []) :=
    Template.fill_output (eval_floatExpr hfactor hs line) rfl rest
  have hadded (line : Nat) (rest : Template) :
      (Template.output (floatExpr "bias" line) rest).fill (ctx.value []) =
        (Template.floatLiteral b ++ ·) <$> rest.fill (ctx.value []) :=
    Template.fill_output (eval_floatExpr hbias hb line) rfl rest
  rw [scaleTemplate, Template.fill_text,
    Template.fill_choice (eval_paramExpr hafter 4) (truth_value after)]
  cases after.value.isTruthy <;>
    simp only [Template.fill_text, hscale, hadded, Template.fill.eq_1, Functor.map, Except.map,
      bind, Except.bind, cond_true, cond_false, if_true, Bool.false_eq_true, if_false, scaleBody,
      mainText, scaleTexts, Shader.weave, String.append_assoc, String.append_empty]

end Operator

end TensorShader
