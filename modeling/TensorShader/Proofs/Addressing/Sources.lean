import TensorShader.Proofs.Addressing.Clamp
import TensorShader.Proofs.Addressing.Encoding

/-! The other sources of the texture addressing library: the texture of an operand, an element of
it, and the output. With the clamping and the addressing, these are the fragments of kernels. -/

namespace TensorShader.Library

open Subroutine (Instance)

def setOutputTemplate : Template :=
  .text "out vec4 outColor;\n\nvoid " <| .output (.variable "ident" 3) <|
  .text "(float value) \x7b\n    outColor = vec4(value, 0.0, 0.0, 1.0);\n\x7d" .done

theorem parse_setOutputSource : Template.parse setOutputSource = .ok setOutputTemplate := by
  rw [setOutputSource, Template.parse_lines]
  simp only [List.map_cons, List.map_nil, String.reduceToList]
  decide +kernel

def textureTemplate : Template :=
  .text "uniform " <| .output (.variable "sampler" 1) <| .text " texture_" <|
  .output (.variable "binding" 1) <| .text ";" .done

theorem parse_textureSource : Template.parse textureSource = .ok textureTemplate := by
  rw [textureSource, Template.parse_lines]
  simp only [List.map_cons, List.map_nil, String.reduceToList]
  decide +kernel

def valueTemplate : Template :=
  .text "float " <| .output (.variable "ident" 1) <|
  .text "(int n, int c, int h, int w) \x7b\n    ivec3 pos = getTexturePos_" <|
  .output (.variable "binding" 2) <| .text "(n, c, h, w);\n" <|
  .choice (sideBySide "layout" 3)
    (.text "    return texelFetch(texture_" <| .output (.variable "binding" 4) <|
      .text ", pos.xy, 0).r;\n" .done)
    (.text "    return texelFetch(texture_" <| .output (.variable "binding" 6) <|
      .text ", pos, 0).r;\n" .done)
    (.text "\x7d" .done)

theorem parse_valueSource : Template.parse valueSource = .ok valueTemplate := by
  rw [valueSource, Template.parse_lines]
  simp only [List.map_cons, List.map_nil, String.reduceToList]
  decide +kernel

def setOutputFragment : Fragment :=
  ⟨⟨"setOutput", none⟩, "out vec4 outColor;\n\nvoid " ++ ("setOutput" ++
    ("(float value) \x7b\n    outColor = vec4(value, 0.0, 0.0, 1.0);\n\x7d" ++ ""))⟩

def textureFragment (key : String) (l : LayoutRecord) : Fragment :=
  ⟨⟨"textureDecl", some key⟩,
    "uniform " ++ (l.sampler ++ (" texture_" ++ (key ++ (";" ++ ""))))⟩

/-- How a function selects the texel at a position. -/
def fetchText (key : String) : Packing → String
  | .plain => "    return texelFetch(texture_" ++ (key ++ (", pos, 0).r;\n" ++ ""))
  | .channelMajor => "    return texelFetch(texture_" ++ (key ++ (", pos.xy, 0).r;\n" ++ ""))

def valueFragment (key : String) (l : LayoutRecord) : Fragment :=
  ⟨⟨"getValueFromTensorPos", some key⟩,
    "float " ++ (Instance.ident ⟨"getValueFromTensorPos", some key⟩ ++
      ("(int n, int c, int h, int w) \x7b\n    ivec3 pos = getTexturePos_" ++ (key ++
        ("(n, c, h, w);\n" ++ (fetchText key l.packing ++ ("\x7d" ++ ""))))))⟩

def clampFragment (key : String) (l : LayoutRecord) : Fragment :=
  ⟨⟨"formatNCHW", some key⟩,
    clampText (Instance.ident ⟨"formatNCHW", some key⟩) l.limits⟩

variable {t : LayoutTable} {key : String} {l : LayoutRecord}

theorem fragment_setOutput (t : LayoutTable) :
    addressing.fragment t ⟨"setOutput", none⟩ = .ok setOutputFragment := by
  have hlookup : addressing.lookup ⟨"setOutput", none⟩ =
      .ok ⟨"setOutput", false, [], setOutputSource⟩ := rfl
  exact fragment_eq hlookup rfl parse_setOutputSource rfl

theorem layoutOf_of_get (name : String) (hl : t.get key = .ok l) :
    t.layoutOf ⟨name, some key⟩ = .ok l := hl

theorem fragment_textureDecl (hl : t.get key = .ok l) :
    addressing.fragment t ⟨"textureDecl", some key⟩ = .ok (textureFragment key l) := by
  have hlookup : addressing.lookup ⟨"textureDecl", some key⟩ =
      .ok ⟨"textureDecl", true, [], textureSource⟩ := rfl
  exact fragment_eq hlookup (layoutOf_of_get _ hl) parse_textureSource rfl

theorem fill_valueTemplate (key : String) (l out : LayoutRecord) :
    valueTemplate.fill (Instance.context ⟨"getValueFromTensorPos", some key⟩ l out) =
      .ok (valueFragment key l).source := by
  obtain ⟨shape, packing, width, height, layers, packRatio⟩ := l
  cases packing <;> rfl

theorem fragment_getValueFromTensorPos (hl : t.get key = .ok l) :
    addressing.fragment t ⟨"getValueFromTensorPos", some key⟩ = .ok (valueFragment key l) := by
  have hlookup : addressing.lookup ⟨"getValueFromTensorPos", some key⟩ =
      .ok ⟨"getValueFromTensorPos", true, ["textureDecl", "getTexturePos"], valueSource⟩ := rfl
  exact fragment_eq hlookup (layoutOf_of_get _ hl) parse_valueSource
    (fill_valueTemplate key l t.output)

end TensorShader.Library
