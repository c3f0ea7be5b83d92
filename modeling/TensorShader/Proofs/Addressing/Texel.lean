import TensorShader.Proofs.Addressing.Fragment
import TensorShader.Proofs.Shader.Function
import TensorShader.Proofs.Template.Fill
import TensorShader.Proofs.Texture.Texel
import TensorShader.Subroutine.Addressing

/-! The shader source that finds the texel of an operand's element: its text, the function that the
text defines, and the texel that the function results in. -/

namespace TensorShader

open Subroutine (Instance)

/-- A texel as a shader's vector. -/
def Texel.vector (t : Texel) : List Int := [(t.x : Int), t.y, t.layer]

namespace Library

/-- Whether a layout is packed with its channels side by side, as a template tests it. -/
def sideBySide (layout : String) (line : Nat) : Template.Expr :=
  .binary .eq (.attribute (.variable layout line) "packing")
    (.literal (.string "channel_major") line)

/-- An extent of a layout's shape, as a template reads it. -/
def extentOf (layout extent : String) (line : Nat) : Template.Expr :=
  .attribute (.attribute (.variable layout line) "shape") extent

def texelTemplate : Template :=
  .text "ivec3 " <| .output (.variable "ident" 1) <|
  .text "(int n, int c, int h, int w) \x7b\n" <|
  .choice (sideBySide "layout" 2)
    (.text "    return ivec3(c * " <| .output (extentOf "layout" "w" 3) <|
      .text " + w, n * " <| .output (extentOf "layout" "h" 3) <| .text " + h, 0);\n" .done)
    (.text "    return ivec3(w, n * " <| .output (extentOf "layout" "h" 5) <|
      .text " + h, c);\n" .done)
    (.text "\x7d" .done)

theorem parse_texelSource : Template.parse texelSource = .ok texelTemplate := by
  rw [texelSource, Template.parse_lines]
  simp only [List.map_cons, List.map_nil, String.reduceToList]
  decide +kernel

/-- The texts before, between and after the extents, from the parameters on. -/
def texelTexts : Packing → List String
  | .plain =>
    ["int n, int c, int h, int w) \x7b\n    return ivec3(w, n * ", " + h, c);\n\x7d"]
  | .channelMajor =>
    ["int n, int c, int h, int w) \x7b\n    return ivec3(c * ", " + w, n * ", " + h, 0);\n\x7d"]

/-- The extents that the texel of an element depends on. -/
def texelExtents (packing : Packing) (s : Shape) : List Nat :=
  match packing with
  | .plain => [s.dims.h]
  | .channelMajor => [s.dims.w, s.dims.h]

/-- The text that finds texels, from the parameters on. -/
def texelBody (l : LayoutRecord) : String :=
  Shader.weave (texelTexts l.packing) ((texelExtents l.packing l.shape).map toString)

def texelText (name : String) (l : LayoutRecord) : String :=
  "ivec3 " ++ (name ++ ("(" ++ texelBody l))

theorem fill_texelTemplate (i : Instance) (l out : LayoutRecord) :
    texelTemplate.fill (i.context l out) = .ok (texelText i.ident l) := by
  have hpacked : (sideBySide "layout" 2).eval (i.context l out) =
      .ok (.bool (l.packing == .channelMajor)) := by
    obtain ⟨shape, packing, width, height, layers, packRatio⟩ := l
    cases packing <;> rfl
  have hplain : (Packing.plain == .channelMajor) = false := rfl
  have hheight (line : Nat) (rest : Template) :
      (Template.output (extentOf "layout" "h" line) rest).fill (i.context l out) =
        (toString l.shape.dims.h ++ ·) <$> rest.fill (i.context l out) :=
    Template.fill_extent rfl rest
  have hwidth (line : Nat) (rest : Template) :
      (Template.output (extentOf "layout" "w" line) rest).fill (i.context l out) =
        (toString l.shape.dims.w ++ ·) <$> rest.fill (i.context l out) :=
    Template.fill_extent rfl rest
  rw [texelTemplate, Template.fill_text, Template.fill_output (s := i.ident) rfl rfl,
    Template.fill_text, Template.fill_choice (b := l.packing == .channelMajor) hpacked rfl,
    texelText, texelBody]
  cases l.packing <;>
  · simp only [hplain, beq_self_eq_true, cond_true, cond_false, Template.fill_text, hheight,
      hwidth, Template.fill.eq_1]
    refine congrArg Except.ok (String.toList_inj.1 ?_)
    simp [texelTexts, texelExtents, Shader.weave]

theorem fragment_getTexturePos {t : LayoutTable} {key : String} {l : LayoutRecord}
    (hl : t.layoutOf ⟨"getTexturePos", some key⟩ = .ok l) :
    addressing.fragment t ⟨"getTexturePos", some key⟩ =
      .ok ⟨⟨"getTexturePos", some key⟩,
        texelText (Instance.ident ⟨"getTexturePos", some key⟩) l⟩ := by
  have hlookup : addressing.lookup ⟨"getTexturePos", some key⟩ =
      .ok ⟨"getTexturePos", true, [], texelSource⟩ := rfl
  exact fragment_eq hlookup hl parse_texelSource (fill_texelTemplate _ l _)

open Shader (Expr Function)

/-- The start of a row of a given length, and the place in it. -/
def placeInRows (row : String) (length : Nat) (place : String) : Expr :=
  .binary .add (.binary .mul (.variable row) (.number length)) (.variable place)

def texelFunction (packing : Packing) (s : Shape) : Function :=
  let row := placeInRows "n" s.dims.h "h"
  let components : Expr :=
    match packing with
    | .plain => .also (.also (.variable "w") row) (.variable "c")
    | .channelMajor => .also (.also (placeInRows "c" s.dims.w "w") row) (.number 0)
  ⟨["n", "c", "h", "w"], [.result (.call "ivec3" components)]⟩

def texelParamTokens : List Shader.Token :=
  [.word "int", .word "n", .symbol ',', .word "int", .word "c", .symbol ',', .word "int",
    .word "h", .symbol ',', .word "int", .word "w", .symbol ')', .symbol '\x7b',
    .word "return", .word "ivec3", .symbol '(']

theorem tokens_texelTexts (packing : Packing) :
    (texelTexts packing).map (Shader.tokens ·.toList) =
      match packing with
      | .plain =>
        [texelParamTokens ++ [.word "w", .symbol ',', .word "n", .symbol '*'],
         [.symbol '+', .word "h", .symbol ',', .word "c", .symbol ')', .symbol ';', .symbol '\x7d']]
      | .channelMajor =>
        [texelParamTokens ++ [.word "c", .symbol '*'],
         [.symbol '+', .word "w", .symbol ',', .word "n", .symbol '*'],
         [.symbol '+', .word "h", .symbol ',', .number 0, .symbol ')', .symbol ';',
          .symbol '\x7d']] := by
  cases packing <;> decide +kernel

theorem tokens_texelBody (l : LayoutRecord) :
    Shader.tokens (texelBody l).toList =
      Shader.weave ((texelTexts l.packing).map (Shader.tokens ·.toList))
        ((texelExtents l.packing l.shape).map fun n => [.number n]) := by
  have hlength : (texelTexts l.packing).length = (texelExtents l.packing l.shape).length + 1 := by
    cases l.packing <;> rfl
  have hapart : Shader.areApart (texelTexts l.packing) = true := by
    cases l.packing <;> decide +kernel
  exact Shader.tokens_weave_toString hapart hlength

theorem ofTokens?_texelBody (l : LayoutRecord) :
    Function.ofTokens? (Shader.tokens (texelBody l).toList) =
      some (texelFunction l.packing l.shape) := by
  rw [tokens_texelBody, tokens_texelTexts]
  cases l.packing <;> rfl

theorem read?_texelText (key : String) (l : LayoutRecord) :
    Function.read? (Instance.ident ⟨"getTexturePos", some key⟩)
      (texelText (Instance.ident ⟨"getTexturePos", some key⟩) l) =
      some (texelFunction l.packing l.shape) := by
  have hhead : (Instance.ident ⟨"getTexturePos", some key⟩).toList.head? = some 'g' := by
    simp [Instance.ident]
  rw [texelText, Function.read?_append hhead (by decide), ofTokens?_texelBody]

/-- The function results in the texel of an element. -/
theorem call_texelFunction (calls : String → List Int → Option (List Int))
    (globals : List (String × List Int)) (l : LayoutRecord) (p : Coord) :
    (texelFunction l.packing l.shape).call calls globals p.vector =
      some (l.texel p).vector := by
  unfold LayoutRecord.texel
  cases l.packing with
  | plain =>
    have hcall : (texelFunction .plain l.shape).call calls globals p.vector =
        some [(p.w : Int), (p.n : Int) * l.shape.dims.h + p.h, (p.c : Int)] := rfl
    rw [hcall]
    simp [Texel.vector]
  | channelMajor =>
    have hcall : (texelFunction .channelMajor l.shape).call calls globals p.vector =
        some [(p.c : Int) * l.shape.dims.w + p.w, (p.n : Int) * l.shape.dims.h + p.h, 0] := rfl
    rw [hcall]
    simp [Texel.vector]

end Library

end TensorShader
