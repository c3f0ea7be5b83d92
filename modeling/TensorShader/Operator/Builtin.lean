import TensorShader.Operator.Body
import TensorShader.Text.Lines

/-! The operators that come with the library: the four elementwise operators, whose second operand
may be smaller than the output; scaling with a bias; and one slice of a split. -/

namespace TensorShader.Operator

/-- The body of an elementwise operator. -/
def elementwiseSource : String :=
  lines [
    "const int AXIS = \x7b\x7b params.axis \x7d\x7d;",
    "",
    "void main() \x7b",
    "    ivec4 oPos1 = getOutputTensorPos();",
    "    float o = getValueFromTensorPos_origin(oPos1.r, oPos1.g, oPos1.b, oPos1.a);",
    "    ivec4 oPos = formatNCHW_counter(oPos1.r, oPos1.g, oPos1.b, oPos1.a);",
    "    float c = getValueFromTensorPos_counter(\x7b\x7b broadcast_args \x7d\x7d);",
    "    float res = o \x7b\x7b symbol \x7d\x7d c;",
    "    setOutput(res);",
    "\x7d"]

/-- The body of `scale`. -/
def scaleSource : String :=
  lines [
    "void main() \x7b",
    "    ivec4 oPos = getOutputTensorPos();",
    "    float x = getValueFromTensorPos_origin(oPos.r, oPos.g, oPos.b, oPos.a);",
    "\x7b% if params.bias_after_scale %\x7d",
    "    float res = \x7b\x7b params.scale|glsl_float \x7d\x7d * x + \x7b\x7b params.bias|glsl_float \x7d\x7d;",
    "\x7b% else %\x7d",
    "    float res = \x7b\x7b params.scale|glsl_float \x7d\x7d * (x + \x7b\x7b params.bias|glsl_float \x7d\x7d);",
    "\x7b% endif %\x7d",
    "    setOutput(res);",
    "\x7d"]

/-- The body of `split`. -/
def splitSource : String :=
  lines [
    "void main() \x7b",
    "    ivec4 oPos = getOutputTensorPos();",
    "    oPos.\x7b\x7b lane \x7d\x7d += \x7b\x7b params.offset \x7d\x7d;",
    "    setOutput(getValueFromTensorPos_origin(oPos.r, oPos.g, oPos.b, oPos.a));",
    "\x7d"]

/-- The coordinate of the output element that is computed. -/
def outputPosition : Subroutine.Instance := ⟨"getOutputTensorPos", none⟩

/-- Writing the computed element. -/
def setOutput : Subroutine.Instance := ⟨"setOutput", none⟩

/-- An element of the first operand. -/
def originValue : Subroutine.Instance := ⟨"getValueFromTensorPos", some "origin"⟩

/-- The elementwise operator of an arithmetic operation, which reads its second operand at the
output coordinate clamped into it. -/
def elementwise (name : String) (a : Arithmetic) : RuledOperator where
  descriptor :=
    { name
      inputs := [⟨"X", "origin"⟩, ⟨"Y", "counter"⟩]
      params := ["axis"]
      deps := [outputPosition, setOutput]
      bindingDeps := [("counter", ["formatNCHW", "getValueFromTensorPos"]),
        ("origin", ["getValueFromTensorPos"])]
      broadcasts := true }
  template := elementwiseSource
  rule := .elementwise a

/-- Multiplication by a factor with a bias added before or after it. -/
def scale : RuledOperator where
  descriptor :=
    { name := "scale"
      inputs := [⟨"X", "origin"⟩]
      params := ["scale", "bias", "bias_after_scale"]
      deps := [outputPosition, originValue, setOutput]
      bindingDeps := []
      broadcasts := false }
  template := scaleSource
  rule := .plain

/-- The slice of an operand that starts at an offset on an axis. -/
def split : RuledOperator where
  descriptor :=
    { name := "split"
      inputs := [⟨"X", "origin"⟩]
      params := ["axis", "offset"]
      deps := [⟨"transferFromNHWCtoNCHW", none⟩, outputPosition, originValue, setOutput]
      bindingDeps := []
      broadcasts := false }
  template := splitSource
  rule := .split

def builtins : List RuledOperator := [
  elementwise "elementwise_add" .add,
  elementwise "elementwise_sub" .sub,
  elementwise "elementwise_mul" .mul,
  elementwise "elementwise_div" .div,
  scale,
  split]

end TensorShader.Operator
