import TensorShader.Kernel.Assembler
import TensorShader.Proofs.Addressing.Sources
import TensorShader.Proofs.Shader.Declaration

/-! The declarations in the fragments of the texture addressing library: a function for each
instance, except that the texture of an operand is a uniform variable, and what the functions read
and write besides. -/

namespace TensorShader.Library

open Assembler (samplerName)
open Subroutine (Instance)
open Shader (Declares IsName callTokens functionTokens uniformTokens)
open Template (isNameChar)

def listTokens (args : List (List Shader.Token)) : List Shader.Token :=
  (args.intersperse [.symbol ',']).flatten

def intParams (xs : List String) : List Shader.Token :=
  listTokens (xs.map fun x => [.word "int", .word x])

def wordArgs (xs : List String) : List Shader.Token := listTokens (xs.map fun x => [.word x])

def returnTokens (type : String) (components : List (List Shader.Token)) : List Shader.Token :=
  .word "return" :: callTokens type (listTokens components)

def rowTokens (row : String) (length : Nat) (place : String) : List Shader.Token :=
  [.word row, .symbol '*', .number length, .symbol '+', .word place]

def transferTokens : List Shader.Token :=
  functionTokens "ivec4" "transferFromNHWCtoNCHW" (intParams ["n", "h", "w", "c"])
    [.word "return" :: callTokens "ivec4" (wordArgs ["n", "c", "h", "w"])]

def texelTokens (name : String) (packing : Packing) (s : Shape) : List Shader.Token :=
  let row := rowTokens "n" s.dims.h "h"
  functionTokens "ivec3" name (intParams ["n", "c", "h", "w"])
    [match packing with
    | .plain => returnTokens "ivec3" [[.word "w"], row, [.word "c"]]
    | .channelMajor => returnTokens "ivec3" [rowTokens "c" s.dims.w "w", row, [.number 0]]]

/-- The smaller one of an index and its limit. -/
def minTokens (index : String) (limit : Int) : List Shader.Token :=
  callTokens "min" (.word index :: .symbol ',' :: Shader.intTokens limit)

def clampStatements (limits : Nchw Int) : List (List Shader.Token) :=
  [returnTokens "ivec4" [minTokens "n" limits.n, minTokens "c" limits.c, minTokens "h" limits.h,
    minTokens "w" limits.w]]

def clampTokens (name : String) (limits : Nchw Int) : List Shader.Token :=
  functionTokens "ivec4" name (intParams ["n", "c", "h", "w"]) (clampStatements limits)

/-- The texel coordinate that a fetch takes: three components, or the two of a single layer. -/
def coordTokens : Packing → List Shader.Token
  | .plain => [.word "pos"]
  | .channelMajor => [.word "pos", .symbol '.', .word "xy"]

def fetchArgs (packing : Packing) (texture : String) : List Shader.Token :=
  listTokens [[.word texture], coordTokens packing, [.number 0]]

def valueTokens (name position texture : String) (packing : Packing) : List Shader.Token :=
  functionTokens "float" name (intParams ["n", "c", "h", "w"])
    [.word "ivec3" :: .word "pos" :: .symbol '=' ::
      callTokens position (wordArgs ["n", "c", "h", "w"]),
    .word "return" :: (callTokens "texelFetch" (fetchArgs packing texture) ++
      [.symbol '.', .word "r"])]

/-- The statements that divide a component of a place into a row and the place in it. -/
def splitTokens (component : String) (length : Nat) (row place : String) :
    List (List Shader.Token) :=
  let xy : List Shader.Token := [.word "xy", .symbol '.', .word component]
  [.word "int" :: .word row :: .symbol '=' :: (xy ++ [.symbol '/', .number length]),
    .word "int" :: .word place :: .symbol '=' ::
      (xy ++ [.symbol '-', .word row, .symbol '*', .number length])]

def positionTokens (packing : Packing) (s : Shape) : List Shader.Token :=
  functionTokens "ivec4" "getOutputTensorPos" [] <|
    ([.word "ivec2", .word "xy", .symbol '='] ++
      callTokens "ivec2" [.word "gl_FragCoord", .symbol '.', .word "xy"]) ::
    (splitTokens "y" s.dims.h "n" "h" ++
      (match packing with
      | .plain => [[.word "int", .word "c", .symbol '=', .word "u_out_layer"],
          [.word "int", .word "w", .symbol '=', .word "xy", .symbol '.', .word "x"]]
      | .channelMajor => splitTokens "x" s.dims.w "c" "w") ++
      [.word "return" :: callTokens "transferFromNHWCtoNCHW" (wordArgs ["n", "h", "w", "c"])])

/-- The layer of the output is chosen from outside if the output has layers. -/
def layerDeclarations : Packing → List (List Shader.Token)
  | .plain => [uniformTokens "int" "u_out_layer"]
  | .channelMajor => []

def setOutputTokens : List Shader.Token :=
  functionTokens "void" "setOutput" [.word "float", .word "value"]
    [[.word "outColor", .symbol '='] ++ callTokens "vec4" (listTokens
      [[.word "value"], [.number 0, .symbol '.', .number 0], [.number 0, .symbol '.', .number 0],
        [.number 1, .symbol '.', .number 0]])]

theorem declares_transfer : Declares transferFragment.source [transferTokens] := by
  have htokens : Shader.tokens transferFragment.source.toList = transferTokens := by
    decide +kernel
  exact .single htokens (Shader.isDeclaration_function _ _ rfl (List.all_eq_true.1 rfl))

theorem declares_setOutput : Declares setOutputFragment.source
    [[.word "out", .word "vec4", .word "outColor", .symbol ';'], setOutputTokens] := by
  refine ⟨by decide +kernel, List.forall_mem_cons.2 ⟨?_, List.forall_mem_singleton.2 ?_⟩⟩
  · exact Shader.isDeclaration_variable (s := [.word "out", .word "vec4", .word "outColor"]) rfl
  · exact Shader.isDeclaration_function _ _ rfl (List.all_eq_true.1 rfl)

theorem isDeclaration_layer (packing : Packing) :
    ∀ d ∈ layerDeclarations packing, Shader.IsDeclaration d := by
  cases packing with
  | plain => exact List.forall_mem_singleton.2 (Shader.isDeclaration_uniform _ _)
  | channelMajor => exact List.forall_mem_nil _

theorem tokens_positionFront (packing : Packing) :
    Shader.tokens (positionFront packing).toList =
      (layerDeclarations packing).flatten ++ [.word "ivec4"] := by
  cases packing <;> decide +kernel

theorem declares_position (out : LayoutRecord) :
    Declares (positionFragment out).source
      (layerDeclarations out.packing ++ [positionTokens out.packing out.shape]) := by
  have hfront : (positionFront out.packing).toList.getLast?.all (fun c => !isNameChar c) =
      true := by
    cases out.packing <;> decide
  refine .function hfront (tokens_positionFront out.packing) (isDeclaration_layer out.packing)
    (by decide) ?_ rfl (List.all_eq_true.1 ?_)
  · rw [tokens_positionBody, tokens_positionTexts]
    cases out.packing <;> rfl
  · cases out.packing <;> rfl

/-- The text behind the texture in a fetch. -/
def fetchEnd : Packing → String
  | .plain => ", pos, 0).r;\n"
  | .channelMajor => ", pos.xy, 0).r;\n"

theorem fetchText_eq (key : String) (packing : Packing) : fetchText key packing =
    "    return texelFetch(texture_" ++ (key ++ (fetchEnd packing ++ "")) := by
  cases packing <;> rfl

/-- The texts before, between and after the function that finds a texel and the texture, from the
parameters on. -/
def valueTexts (packing : Packing) : List String :=
  ["int n, int c, int h, int w) \x7b\n    ivec3 pos = ",
    "(n, c, h, w);\n    return texelFetch(", fetchEnd packing ++ "\x7d"]

theorem tokens_valueTexts (packing : Packing) :
    (valueTexts packing).map (Shader.tokens ·.toList) =
      [intParams ["n", "c", "h", "w"] ++
          [.symbol ')', .symbol '\x7b', .word "ivec3", .word "pos", .symbol '='],
        .symbol '(' :: (wordArgs ["n", "c", "h", "w"] ++
          [.symbol ')', .symbol ';', .word "return", .word "texelFetch", .symbol '(']),
        .symbol ',' :: (coordTokens packing ++
          [.symbol ',', .number 0, .symbol ')', .symbol '.', .word "r", .symbol ';',
            .symbol '\x7d'])] := by
  cases packing <;> decide +kernel

theorem isInner_clampStatements (limits : Nchw Int) :
    ∀ s ∈ clampStatements limits, s.all Shader.Token.isInner = true := by
  have hinner := Shader.all_intTokens (P := Shader.Token.isInner) rfl fun _ => rfl
  refine List.forall_mem_singleton.2 ?_
  simp [returnTokens, listTokens, minTokens, callTokens, Shader.Token.isInner, hinner]

theorem tokens_clampBody_eq (limits : Nchw Int) : Shader.tokens (clampBody limits).toList =
    intParams ["n", "c", "h", "w"] ++ .symbol ')' :: .symbol '\x7b' ::
      Shader.blockTokens (clampStatements limits) := by
  rw [tokens_clampBody, tokens_clampTexts]
  simp [Shader.weave, minStart, intParams, listTokens, clampStatements, returnTokens, minTokens,
    callTokens, Shader.blockTokens, Nchw.toList]

section Bound

variable {key : String} (hkey : key.toList.all isNameChar = true) (l : LayoutRecord)
include hkey

theorem isName_append {name : String} (hname : IsName name) : IsName (name ++ key) := by
  obtain ⟨hall, hdigit⟩ := hname
  refine ⟨?_, ?_⟩
  · rw [String.toList_append, List.all_append, hall, hkey]
    rfl
  · rw [String.toList_append, List.all_append, hdigit]
    rfl

theorem isName_ident {name : String} (hname : IsName (name ++ "_")) :
    IsName (Instance.ident ⟨name, some key⟩) := isName_append hkey hname

theorem declares_texture :
    Declares (textureFragment key l).source [uniformTokens l.sampler (samplerName key)] := by
  have hsource : (textureFragment key l).source =
      Shader.weave ["uniform ", " ", ";"] [l.sampler, samplerName key] := by
    apply String.toList_inj.1
    simp [textureFragment, Shader.weave, samplerName]
  have hsampler : IsName l.sampler := by
    unfold LayoutRecord.sampler
    cases l.packing <;> decide
  have hname : IsName (samplerName key) := isName_append hkey (by decide)
  refine .single ?_ (Shader.isDeclaration_uniform _ _)
  rw [hsource, Shader.tokens_weave (by decide) rfl]
  simp only [List.map_cons, List.map_nil, Shader.tokens_name hsampler, Shader.tokens_name hname]
  rfl

theorem declares_texel : Declares (texelFragment key l).source
    [texelTokens (Instance.ident ⟨"getTexturePos", some key⟩) l.packing l.shape] := by
  refine .definition (by decide) (by decide) (isName_ident hkey (by decide)) ?_ rfl
    (List.all_eq_true.1 ?_)
  · rw [tokens_texelBody, tokens_texelTexts]
    cases l.packing <;> rfl
  · cases l.packing <;> rfl

theorem declares_value : Declares (valueFragment key l).source
    [valueTokens (Instance.ident ⟨"getValueFromTensorPos", some key⟩)
      (Instance.ident ⟨"getTexturePos", some key⟩) (samplerName key) l.packing] := by
  have hsource : (valueFragment key l).source =
      "float " ++ (Instance.ident ⟨"getValueFromTensorPos", some key⟩ ++ ("(" ++
        Shader.weave (valueTexts l.packing)
          [Instance.ident ⟨"getTexturePos", some key⟩, samplerName key])) := by
    unfold valueFragment
    rw [fetchText_eq]
    apply String.toList_inj.1
    cases l.packing <;>
      simp [fetchEnd, valueTexts, Shader.weave, samplerName, Instance.ident]
  have hposition : IsName (Instance.ident ⟨"getTexturePos", some key⟩) :=
    isName_ident hkey (by decide)
  have htexture : IsName (samplerName key) := isName_append hkey (by decide)
  have hapart : Shader.areApart (valueTexts l.packing) = true := by
    cases l.packing <;> decide +kernel
  have hlength : (valueTexts l.packing).length =
      [Instance.ident ⟨"getTexturePos", some key⟩, samplerName key].length + 1 := rfl
  rw [hsource]
  refine .definition (by decide) (by decide) (isName_ident hkey (by decide)) ?_ rfl
    (List.all_eq_true.1 ?_)
  · rw [Shader.tokens_weave hapart hlength, tokens_valueTexts]
    simp only [List.map_cons, List.map_nil, Shader.tokens_name hposition,
      Shader.tokens_name htexture]
    cases l.packing <;> rfl
  · cases l.packing <;> rfl

theorem declares_clamp : Declares (clampFragment key l).source
    [clampTokens (Instance.ident ⟨"formatNCHW", some key⟩) l.limits] := by
  exact .definition (by decide) (by decide) (isName_ident hkey (by decide))
    (tokens_clampBody_eq l.limits) rfl (isInner_clampStatements l.limits)

end Bound

end TensorShader.Library
