import TensorShader.Subroutine.Library
import TensorShader.Text.Lines

/-! The library of texture addressing: the coordinate of the output element that a shader computes,
the texels of operands, and the clamping of coordinates into smaller operands. -/

namespace TensorShader.Library

/-- A coordinate from its components with the channel last. -/
def transferSource : String :=
  lines [
    "ivec4 \x7b\x7b ident \x7d\x7d(int n, int h, int w, int c) \x7b",
    "    return ivec4(n, c, h, w);",
    "\x7d"]

/-- The coordinate of the output element that is computed, from its texel. -/
def outputPositionSource : String :=
  lines [
    "\x7b% if out.packing == \"plain\" %\x7d",
    "uniform int u_out_layer;",
    "",
    "\x7b% endif %\x7d",
    "ivec4 \x7b\x7b ident \x7d\x7d() \x7b",
    "    ivec2 xy = ivec2(gl_FragCoord.xy);",
    "    int n = xy.y / \x7b\x7b out.shape.h \x7d\x7d;",
    "    int h = xy.y - n * \x7b\x7b out.shape.h \x7d\x7d;",
    "\x7b% if out.packing == \"channel_major\" %\x7d",
    "    int c = xy.x / \x7b\x7b out.shape.w \x7d\x7d;",
    "    int w = xy.x - c * \x7b\x7b out.shape.w \x7d\x7d;",
    "\x7b% else %\x7d",
    "    int c = u_out_layer;",
    "    int w = xy.x;",
    "\x7b% endif %\x7d",
    "    return transferFromNHWCtoNCHW(n, h, w, c);",
    "\x7d"]

/-- Writing the computed element. -/
def setOutputSource : String :=
  lines [
    "out vec4 outColor;",
    "",
    "void \x7b\x7b ident \x7d\x7d(float value) \x7b",
    "    outColor = vec4(value, 0.0, 0.0, 1.0);",
    "\x7d"]

/-- The declaration of an operand's texture. -/
def textureSource : String :=
  lines [
    "uniform \x7b\x7b sampler \x7d\x7d texture_\x7b\x7b binding \x7d\x7d;"]

/-- The texel that holds an element of an operand. -/
def texelSource : String :=
  lines [
    "ivec3 \x7b\x7b ident \x7d\x7d(int n, int c, int h, int w) \x7b",
    "\x7b% if layout.packing == \"channel_major\" %\x7d",
    "    return ivec3(c * \x7b\x7b layout.shape.w \x7d\x7d + w, n * \x7b\x7b layout.shape.h \x7d\x7d + h, 0);",
    "\x7b% else %\x7d",
    "    return ivec3(w, n * \x7b\x7b layout.shape.h \x7d\x7d + h, c);",
    "\x7b% endif %\x7d",
    "\x7d"]

/-- An element of an operand. -/
def valueSource : String :=
  lines [
    "float \x7b\x7b ident \x7d\x7d(int n, int c, int h, int w) \x7b",
    "    ivec3 pos = getTexturePos_\x7b\x7b binding \x7d\x7d(n, c, h, w);",
    "\x7b% if layout.packing == \"channel_major\" %\x7d",
    "    return texelFetch(texture_\x7b\x7b binding \x7d\x7d, pos.xy, 0).r;",
    "\x7b% else %\x7d",
    "    return texelFetch(texture_\x7b\x7b binding \x7d\x7d, pos, 0).r;",
    "\x7b% endif %\x7d",
    "\x7d"]

/-- A coordinate clamped into an operand. -/
def clampSource : String :=
  lines [
    "ivec4 \x7b\x7b ident \x7d\x7d(int n, int c, int h, int w) \x7b",
    "    return ivec4(",
    "        min(n, \x7b\x7b layout.pack_ratio - 1 \x7d\x7d),",
    "        min(c, \x7b\x7b layout.shape.c - 1 \x7d\x7d),",
    "        min(h, \x7b\x7b layout.shape.h - 1 \x7d\x7d),",
    "        min(w, \x7b\x7b layout.shape.w - 1 \x7d\x7d));",
    "\x7d"]

def addressingSubroutines : List Subroutine := [
  ⟨"transferFromNHWCtoNCHW", false, [], transferSource⟩,
  ⟨"getOutputTensorPos", false, ["transferFromNHWCtoNCHW"], outputPositionSource⟩,
  ⟨"setOutput", false, [], setOutputSource⟩,
  ⟨"textureDecl", true, [], textureSource⟩,
  ⟨"getTexturePos", true, [], texelSource⟩,
  ⟨"getValueFromTensorPos", true, ["textureDecl", "getTexturePos"], valueSource⟩,
  ⟨"formatNCHW", true, [], clampSource⟩]

def addressing : Library := .ofList (addressingSubroutines.map fun s => (s.name, s))

end TensorShader.Library
