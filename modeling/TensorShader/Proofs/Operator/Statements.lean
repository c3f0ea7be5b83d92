import TensorShader.Proofs.Operator.Body
import TensorShader.Proofs.Shader.Main

/-! The statements of the function `main` in the bodies of the operators that come with the library.
The words between the texts of a body are kept as their tokens. -/

namespace TensorShader

open Shader (Token IsName callTokens)

namespace Operator

/-- The tokens of the components of a vector, as arguments. -/
def laneTokens (x : String) : List Token :=
  [.word x, .symbol '.', .word "r", .symbol ',', .word x, .symbol '.', .word "g", .symbol ',',
    .word x, .symbol '.', .word "b", .symbol ',', .word x, .symbol '.', .word "a"]

def declareTokens (type x : String) (value : List Token) : List Token :=
  .word type :: .word x :: .symbol '=' :: value

def elementwiseStatements (args symbol : List Token) : List (List Token) :=
  [declareTokens "ivec4" "oPos1" (callTokens "getOutputTensorPos" []),
    declareTokens "float" "o" (callTokens "getValueFromTensorPos_origin" (laneTokens "oPos1")),
    declareTokens "ivec4" "oPos" (callTokens "formatNCHW_counter" (laneTokens "oPos1")),
    declareTokens "float" "c" (callTokens "getValueFromTensorPos_counter" args),
    declareTokens "float" "res" (.word "o" :: (symbol ++ [.word "c"])),
    callTokens "setOutput" [.word "res"]]

def scaleStatements (result : List Token) : List (List Token) :=
  [declareTokens "ivec4" "oPos" (callTokens "getOutputTensorPos" []),
    declareTokens "float" "x" (callTokens "getValueFromTensorPos_origin" (laneTokens "oPos")),
    declareTokens "float" "res" result,
    callTokens "setOutput" [.word "res"]]

def splitStatements (lane : String) (offset : Nat) : List (List Token) :=
  [declareTokens "ivec4" "oPos" (callTokens "getOutputTensorPos" []),
    [.word "oPos", .symbol '.', .word lane, .symbol '+', .symbol '=', .number offset],
    callTokens "setOutput" (callTokens "getValueFromTensorPos_origin" (laneTokens "oPos"))]

set_option maxRecDepth 100000 in
theorem tokens_elementwiseTexts :
    elementwiseTexts.map (Shader.tokens ·.toList) =
      [.symbol ')' :: .symbol '\x7b' ::
        (declareTokens "ivec4" "oPos1" (callTokens "getOutputTensorPos" []) ++ .symbol ';' ::
          (declareTokens "float" "o" (callTokens "getValueFromTensorPos_origin"
            (laneTokens "oPos1")) ++ .symbol ';' ::
          (declareTokens "ivec4" "oPos" (callTokens "formatNCHW_counter" (laneTokens "oPos1")) ++
            .symbol ';' ::
          declareTokens "float" "c" [.word "getValueFromTensorPos_counter", .symbol '(']))),
        .symbol ')' :: .symbol ';' :: declareTokens "float" "res" [.word "o"],
        .word "c" :: .symbol ';' :: (callTokens "setOutput" [.word "res"] ++
          [.symbol ';', .symbol '\x7d'])] := by
  unfold elementwiseTexts elementwiseStart
  simp only [List.map_cons, List.map_nil, String.toList_append, String.reduceToList]
  decide +kernel

set_option maxRecDepth 100000 in
theorem areApart_elementwiseTexts : Shader.areApart elementwiseTexts = true := by
  unfold elementwiseTexts elementwiseStart
  simp only [Shader.areApart, String.toList_append, String.reduceToList]
  decide +kernel

theorem tokens_elementwiseBody (args symbol : String) :
    Shader.tokens (Shader.weave elementwiseTexts [args, symbol]).toList =
      .symbol ')' :: .symbol '\x7b' :: Shader.blockTokens
        (elementwiseStatements (Shader.tokens args.toList) (Shader.tokens symbol.toList)) := by
  have hlength : elementwiseTexts.length = [args, symbol].length + 1 := rfl
  rw [Shader.tokens_weave areApart_elementwiseTexts hlength, tokens_elementwiseTexts]
  simp [Shader.weave, Shader.blockTokens, elementwiseStatements, declareTokens, callTokens]

def resultTokens (after : Bool) (factor bias : List Token) : List Token :=
  if after then factor ++ ([.symbol '*', .word "x", .symbol '+'] ++ bias)
  else factor ++ ([.symbol '*', .symbol '(', .word "x", .symbol '+'] ++ (bias ++ [.symbol ')']))

def scaleStartTokens : List Token :=
  .symbol ')' :: .symbol '\x7b' ::
    (declareTokens "ivec4" "oPos" (callTokens "getOutputTensorPos" []) ++ .symbol ';' ::
    (declareTokens "float" "x" (callTokens "getValueFromTensorPos_origin" (laneTokens "oPos")) ++
      .symbol ';' :: declareTokens "float" "res" []))

def scaleEndTokens : List Token :=
  .symbol ';' :: (callTokens "setOutput" [.word "res"] ++ [.symbol ';', .symbol '\x7d'])

set_option maxRecDepth 100000 in
theorem tokens_scaleTexts (after : Bool) :
    (scaleTexts after).map (Shader.tokens ·.toList) =
      if after then
        [scaleStartTokens, [.symbol '*', .word "x", .symbol '+'], scaleEndTokens]
      else
        [scaleStartTokens, [.symbol '*', .symbol '(', .word "x", .symbol '+'],
          .symbol ')' :: scaleEndTokens] := by
  unfold scaleTexts scaleStart scaleEnd
  cases after <;>
  · simp only [Bool.false_eq_true, if_true, if_false, List.map_cons, List.map_nil,
      String.toList_append, String.reduceToList]
    decide +kernel

set_option maxRecDepth 100000 in
theorem areApart_scaleTexts (after : Bool) : Shader.areApart (scaleTexts after) = true := by
  unfold scaleTexts scaleStart scaleEnd
  cases after <;>
  · simp only [Bool.false_eq_true, if_true, if_false, Shader.areApart, String.toList_append,
      String.reduceToList]
    decide +kernel

theorem tokens_scaleBody (after : Bool) (factor bias : String) :
    Shader.tokens (Shader.weave (scaleTexts after) [factor, bias]).toList =
      .symbol ')' :: .symbol '\x7b' :: Shader.blockTokens (scaleStatements
        (resultTokens after (Shader.tokens factor.toList) (Shader.tokens bias.toList))) := by
  have hlength : (scaleTexts after).length = [factor, bias].length + 1 := by
    cases after <;> rfl
  rw [Shader.tokens_weave (areApart_scaleTexts after) hlength, tokens_scaleTexts]
  cases after <;>
    simp [Shader.weave, Shader.blockTokens, scaleStatements, scaleStartTokens, scaleEndTokens,
      resultTokens, declareTokens, callTokens]

set_option maxRecDepth 100000 in
theorem tokens_splitTexts :
    [splitStart, " += ", splitEnd].map (Shader.tokens ·.toList) =
      [.symbol ')' :: .symbol '\x7b' ::
        (declareTokens "ivec4" "oPos" (callTokens "getOutputTensorPos" []) ++
          [.symbol ';', .word "oPos", .symbol '.']),
        [.symbol '+', .symbol '='],
        .symbol ';' :: (callTokens "setOutput" (callTokens "getValueFromTensorPos_origin"
          (laneTokens "oPos")) ++ [.symbol ';', .symbol '\x7d'])] := by
  unfold splitStart splitEnd
  simp only [List.map_cons, List.map_nil, String.reduceToList]
  decide +kernel

set_option maxRecDepth 100000 in
theorem areApart_splitTexts : Shader.areApart [splitStart, " += ", splitEnd] = true := by
  unfold splitStart splitEnd
  simp only [Shader.areApart, String.reduceToList]
  decide +kernel

theorem tokens_splitBody {lane : String} (hlane : IsName lane) (offset : Nat) :
    Shader.tokens (Shader.weave [splitStart, " += ", splitEnd] [lane, toString offset]).toList =
      .symbol ')' :: .symbol '\x7b' :: Shader.blockTokens (splitStatements lane offset) := by
  have hlength : [splitStart, " += ", splitEnd].length = [lane, toString offset].length + 1 := rfl
  rw [Shader.tokens_weave areApart_splitTexts hlength, tokens_splitTexts, List.map_cons,
    List.map_cons, List.map_nil, Shader.tokens_name hlane, Shader.tokens_toString]
  simp [Shader.weave, Shader.blockTokens, splitStatements, declareTokens, callTokens]

end Operator

end TensorShader
