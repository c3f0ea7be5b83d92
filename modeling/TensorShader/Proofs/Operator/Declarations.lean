import TensorShader.Proofs.Addressing.Declarations
import TensorShader.Proofs.Operator.Fragments
import TensorShader.Proofs.Operator.Reads

/-! The declarations in the bodies of the operators that come with the library, and in the fragments
before them: a body defines `main`, which calls functions of the fragments. -/

namespace TensorShader.Operator

open Assembler (samplerName)
open Library
open Subroutine (Instance)
open Shader (Declares Token called functionTokens uniformTokens words)

def mainTokens (ss : List (List Token)) : List Token := functionTokens "void" "main" [] ss

def axisTokens (axis : Int) : List Token :=
  .word "const" :: .word "int" :: .word "AXIS" :: .symbol '=' ::
    (Shader.intTokens axis ++ [.symbol ';'])

theorem isDeclaration_axisTokens (axis : Int) : Shader.IsDeclaration (axisTokens axis) := by
  have hinner : (.word "const" :: .word "int" :: .word "AXIS" :: .symbol '=' ::
      Shader.intTokens axis).all Token.isInner = true := by
    cases axis <;> rfl
  exact Shader.isDeclaration_variable hinner

theorem tokens_elementwiseFront (axis : Int) :
    Shader.tokens (elementwiseFront axis).toList = [axisTokens axis].flatten ++ [.word "void"] := by
  have hfront : elementwiseFront axis =
      Shader.weave ["const int AXIS = ", ";\n\nvoid "] [toString axis] := rfl
  have hapart : Shader.areApart ["const int AXIS = ", ";\n\nvoid "] = true := by decide
  have hlength : ["const int AXIS = ", ";\n\nvoid "].length = [toString axis].length + 1 := rfl
  rw [hfront, Shader.tokens_weave hapart hlength]
  simp only [List.map_cons, List.map_nil, Shader.tokens_int]
  cases axis <;> rfl

theorem declares_elementwiseBody (axis : Int) (a : Alignment) (op : Arithmetic) :
    Declares (elementwiseBody axis (a.readArgs BodyContext.coordVar) op)
      ([axisTokens axis] ++ [mainTokens (elementwiseStatements
        (Shader.tokens (a.readArgs BodyContext.coordVar).toList)
        (Shader.tokens op.symbol.toList))]) := by
  refine .function ?_ (tokens_elementwiseFront axis)
    (List.forall_mem_singleton.2 (isDeclaration_axisTokens axis)) (by decide)
    (tokens_elementwiseBody _ _) rfl (isInner_elementwiseStatements a op)
  rw [elementwiseFront, String.toList_append, String.toList_append, List.getLast?_append,
    List.getLast?_append]
  rfl

theorem declares_scaleBody (after : Bool) (factor bias : Binary64) :
    Declares (scaleBody after factor bias) [mainTokens (scaleStatements (resultTokens after
      (Shader.tokens (Template.floatLiteral factor).toList)
      (Shader.tokens (Template.floatLiteral bias).toList)))] :=
  .definition (by decide) (by decide) (by decide) (tokens_scaleBody after _ _) rfl
    (isInner_scaleStatements after factor bias)

theorem declares_splitBody (d : Axis) (offset : Nat) :
    Declares (splitBody d offset) [mainTokens (splitStatements d.lane offset)] :=
  .definition (by decide) (by decide) (by decide) (tokens_splitBody (isName_lane d) offset) rfl
    (isInner_splitStatements d.lane offset)

theorem called_mainTokens (ss : List (List Token)) :
    called (Shader.bodyTokens (mainTokens ss)) = ss.flatMap called :=
  Shader.called_blockTokens ss

theorem called_declareTokens (type x : String) (value : List Token) :
    called (declareTokens type x value) = called value := rfl

theorem called_elementwiseStatements (a : Alignment) (op : Arithmetic) :
    (elementwiseStatements (Shader.tokens (a.readArgs BodyContext.coordVar).toList)
      (Shader.tokens op.symbol.toList)).flatMap called =
      ["getOutputTensorPos", "getValueFromTensorPos_origin", "formatNCHW_counter",
        "getValueFromTensorPos_counter", "setOutput"] := by
  have hargs : called (Shader.tokens (a.readArgs BodyContext.coordVar).toList) = [] :=
    Shader.called_of_not_mem fun h => (all_tokens_readArgs a _ h).2.2.1 rfl
  have hresult : called (.word "o" :: (Shader.tokens op.symbol.toList ++ [.word "c"])) = [] := by
    cases op <;> rfl
  simp only [elementwiseStatements, List.flatMap_cons, called_declareTokens,
    Shader.called_callTokens, hargs, hresult]
  rfl

theorem called_resultTokens {factor bias : List Token} (after : Bool)
    (hfactor : called factor = []) (hbias : called bias = []) :
    called (resultTokens after factor bias) = [] := by
  unfold resultTokens
  cases after with
  | true =>
    have hrest : called (.symbol '*' :: .word "x" :: .symbol '+' :: bias) = called bias := rfl
    rw [if_pos rfl, Shader.called_append factor (by simp), hfactor]
    exact hrest.trans hbias
  | false =>
    have hrest : called (.symbol '*' :: .symbol '(' :: .word "x" :: .symbol '+' ::
        (bias ++ [.symbol ')'])) = called (bias ++ [.symbol ')']) := rfl
    rw [if_neg Bool.false_ne_true, Shader.called_append factor (by simp), hfactor]
    exact hrest.trans ((Shader.called_close bias).trans hbias)

theorem called_floatLiteral (x : Binary64) :
    called (Shader.tokens (Template.floatLiteral x).toList) = [] := by
  refine Shader.called_of_not_mem fun h => ?_
  rw [Template.floatLiteral_eq] at h
  have hliteral := Binary64.isLiteralChar_of_mem_text (Shader.mem_symbol_tokens h)
  revert hliteral
  decide

theorem called_scaleStatements (after : Bool) (factor bias : Binary64) :
    (scaleStatements (resultTokens after
      (Shader.tokens (Template.floatLiteral factor).toList)
      (Shader.tokens (Template.floatLiteral bias).toList))).flatMap called =
      ["getOutputTensorPos", "getValueFromTensorPos_origin", "setOutput"] := by
  have hresult := called_resultTokens after (called_floatLiteral factor) (called_floatLiteral bias)
  simp only [scaleStatements, List.flatMap_cons, called_declareTokens, Shader.called_callTokens,
    hresult]
  rfl

theorem called_splitStatements (d : Axis) (offset : Nat) :
    (splitStatements d.lane offset).flatMap called =
      ["getOutputTensorPos", "setOutput", "getValueFromTensorPos_origin"] := by
  cases d <;> rfl

/-- The declarations in what reading an operand needs, fragment by fragment. -/
def operandDeclarations (key : String) (packing : Packing) (s : Shape) : List (List (List Token)) :=
  let position := Instance.ident ⟨"getTexturePos", some key⟩
  [[uniformTokens packing.sampler (samplerName key)], [texelTokens position packing s],
    [valueTokens (Instance.ident ⟨"getValueFromTensorPos", some key⟩) position (samplerName key)
      packing]]

def outputDeclarations (packing : Packing) (s : Shape) : List (List (List Token)) :=
  [[transferTokens], layerDeclarations packing ++ [positionTokens packing s]]

def writeDeclarations : List (List (List Token)) :=
  [[[.word "out", .word "vec4", .word "outColor", .symbol ';'], setOutputTokens]]

def originDeclarations (packing : Packing) (out x : Shape) : List (List (List Token)) :=
  outputDeclarations packing out ++ operandDeclarations originKey packing x ++ writeDeclarations

def counterDeclarations (packing : Packing) (out x y : Shape) : List (List (List Token)) :=
  outputDeclarations packing out ++ writeDeclarations ++
    [[clampTokens (Instance.ident ⟨"formatNCHW", some "counter"⟩) (y.lastIndex.map Nat.cast)]] ++
    (operandDeclarations "counter" packing y ++ operandDeclarations originKey packing x)

variable {packing : Packing} {out x : LayoutRecord} {y : Layout}

theorem forall₂_operandDeclarations {key : String}
    (hkey : key.toList.all Template.isNameChar = true) (hx : x.packing = packing) :
    List.Forall₂ (fun f ds => Declares f.source ds) (operandFragments key x)
      (operandDeclarations key packing x.shape) := by
  subst hx
  exact .cons (declares_texture hkey x) (.cons (declares_texel hkey x)
    (.cons (declares_value hkey x) .nil))

theorem forall₂_originDeclarations (hout : out.packing = packing) (hx : x.packing = packing) :
    List.Forall₂ (fun f ds => Declares f.source ds) (originFragments out x)
      (originDeclarations packing out.shape x.shape) := by
  subst hout
  exact .cons declares_transfer (.cons (declares_position out)
    (List.rel_append (forall₂_operandDeclarations (by decide) hx) (.cons declares_setOutput .nil)))

theorem forall₂_counterDeclarations (hout : out.packing = packing) (hx : x.packing = packing)
    (hy : y.packing = packing) :
    List.Forall₂ (fun f ds => Declares f.source ds) (counterFragments out x y)
      (counterDeclarations packing out.shape x.shape y.shape) := by
  subst hout
  have hkey : "counter".toList.all Template.isNameChar = true := by decide
  have hclamp := declares_clamp hkey y
  rw [y.limits_eq] at hclamp
  exact .cons declares_transfer (.cons (declares_position out) (.cons declares_setOutput
    (.cons hclamp (List.rel_append (forall₂_operandDeclarations hkey hy)
      (forall₂_operandDeclarations (by decide) hx)))))

end TensorShader.Operator
