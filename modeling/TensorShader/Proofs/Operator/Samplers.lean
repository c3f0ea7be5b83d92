import TensorShader.Proofs.Addressing.Samplers
import TensorShader.Proofs.Operator.Declarations

/-! Samplers of the operators that come with the library: the fragments before a body take the
sampler of each operand, and the body takes none. -/

namespace TensorShader.Operator

open Library
open Shader (Token argumentsOf uniformTokens words)
open Subroutine (Instance)

section Operand

variable (packing : Packing) {key : String} (hkey : key ∈ ["origin", "counter"])
include hkey

theorem not_mem_samplerTokens :
    "texelFetch" ∉ words (samplerTokens packing ("texture_" ++ key)) := by
  revert key
  cases packing <;> decide

theorem isApart_texelTokens (s : Shape) :
    (texelTokens (Instance.ident ⟨"getTexturePos", some key⟩) packing s).all Token.isApart =
      true := by
  simp only [List.mem_cons, List.not_mem_nil, or_false] at hkey
  obtain rfl | rfl := hkey <;> cases packing <;> rfl

/-- The function that reads an operand fetches from its sampler, and names no other. -/
theorem fetch_valueTokens :
    let value := valueTokens (Instance.ident ⟨"getValueFromTensorPos", some key⟩)
      (Instance.ident ⟨"getTexturePos", some key⟩) ("texture_" ++ key) packing
    (words value).all (!isSamplerType ·) = true ∧
      argumentsOf "texelFetch" value = [some (fetchArgs packing ("texture_" ++ key))] := by
  revert key
  cases packing <;> decide

theorem samples_operand (s : Shape) :
    Samples packing ["texture_" ++ key] (operandDeclarations key packing s).flatten := by
  have hds : (operandDeclarations key packing s).flatten =
      [samplerTokens packing ("texture_" ++ key),
        texelTokens (Instance.ident ⟨"getTexturePos", some key⟩) packing s,
        valueTokens (Instance.ident ⟨"getValueFromTensorPos", some key⟩)
          (Instance.ident ⟨"getTexturePos", some key⟩) ("texture_" ++ key) packing] := by
    cases packing <;> rfl
  have hsampler := not_mem_samplerTokens packing hkey
  have htexel := of_isApart (isApart_texelTokens packing hkey s)
  obtain ⟨hvalue, hfetch⟩ := fetch_valueTokens packing hkey
  rw [hds]
  -- of the three declarations, only the sampler has the type, and only the last one fetches
  refine ⟨List.forall_mem_singleton.2 List.mem_cons_self, ?_, .of_eq ?_, ?_⟩
  · simp only [List.forall_mem_cons]
    refine ⟨fun w _ _ => ⟨_, List.mem_cons_self, rfl⟩, fun w hw htype => ?_, fun w hw htype => ?_,
      List.forall_mem_nil _⟩
    · rw [(htexel w hw).1] at htype
      cases htype
    · have hnot := List.all_eq_true.1 hvalue w hw
      rw [htype] at hnot
      cases hnot
  · simp only [List.flatMap_cons, List.flatMap_nil, hfetch,
      Shader.argumentsOf_of_not_mem hsampler,
      Shader.argumentsOf_of_not_mem fun h => (htexel _ h).2 rfl]
    rfl
  · simp only [List.forall_mem_cons]
    exact ⟨fun h => absurd h hsampler, fun h => absurd rfl (htexel _ h).2,
      fun _ => position_infix _ _ _ _, List.forall_mem_nil _⟩

end Operand

theorem isApart_outputDeclarations (packing : Packing) (s : Shape) :
    (outputDeclarations packing s).flatten.all (·.all Token.isApart) = true := by
  cases packing <;> rfl

theorem isApart_writeDeclarations :
    writeDeclarations.flatten.all (·.all Token.isApart) = true := rfl

theorem samples_origin (packing : Packing) (out x : Shape) :
    Samples packing ["texture_origin"] (originDeclarations packing out x).flatten := by
  have horigin : originKey ∈ ["origin", "counter"] := by decide
  have h := ((samples_nil packing (isApart_outputDeclarations packing out)).append
    (samples_operand packing horigin x)).append (samples_nil packing isApart_writeDeclarations)
  rw [originDeclarations, List.flatten_append, List.flatten_append]
  exact h

theorem samples_counter (packing : Packing) (out x y : Shape) :
    Samples packing ["texture_origin", "texture_counter"]
      (counterDeclarations packing out x y).flatten := by
  have hclamp : ([[clampTokens (Instance.ident ⟨"formatNCHW", some "counter"⟩)
      (y.lastIndex.map Nat.cast)]] :
      List (List (List Token))).flatten.all (·.all Token.isApart) = true := rfl
  have horigin : originKey ∈ ["origin", "counter"] := by decide
  have hcounter : "counter" ∈ ["origin", "counter"] := by decide
  have h := (((samples_nil packing (isApart_outputDeclarations packing out)).append
    (samples_nil packing isApart_writeDeclarations)).append (samples_nil packing hclamp)).append
      ((samples_operand packing hcounter y).append (samples_operand packing horigin x))
  rw [counterDeclarations]
  simp only [List.flatten_append]
  -- the operands are fetched in the other order than the operator lists them
  exact h.perm (.swap _ _ _)

/-- Whether a token of a body has nothing to do with textures. -/
def isLocal (t : Token) : Bool := t.isApart && t ≠ .word "u_out_layer"

theorem isLocal_mainTokens {ss : List (List Token)} (h : ∀ s ∈ ss, s.all isLocal = true) :
    (mainTokens ss).all isLocal = true := by
  have hsemicolon : isLocal (.symbol ';') = true := rfl
  have hblock : (Shader.blockTokens ss).all isLocal = true := by
    rw [Shader.blockTokens, List.all_append, List.all_flatMap]
    simp only [List.all_append, List.all_cons, hsemicolon, List.all_nil, Bool.and_true]
    rw [List.all_eq_true.2 h]
    rfl
  have hstart : ([.word "void", .word "main", .symbol '(', .symbol ')', .symbol '\x7b'] :
      List Token).all isLocal = true := by decide
  have hmain : mainTokens ss =
      [.word "void", .word "main", .symbol '(', .symbol ')', .symbol '\x7b'] ++
        Shader.blockTokens ss := rfl
  rw [hmain, List.all_append, hstart, hblock]
  rfl

theorem isLocal_floatLiteral (x : Binary64) (t : Token)
    (ht : t ∈ Shader.tokens (Template.floatLiteral x).toList) : isLocal t = true := by
  rw [Template.floatLiteral_eq] at ht
  cases t with
  | word w =>
    -- what belongs to textures has letters that no written number has
    have hne (c : Char) (hc : isLiteralChar c = false) : c ∉ w.toList := fun hmem => by
      rw [Binary64.isLiteralChar_of_mem_text (Shader.mem_word_tokens ht c hmem)] at hc
      cases hc
    have hsampler : isSamplerType w = false :=
      eq_false_of_ne_true fun h => hne 's' (by decide) (mem_of_isSamplerType h)
    have hfetch : w ≠ "texelFetch" := by
      rintro rfl
      exact hne 't' (by decide) (by decide)
    have hlayer : w ≠ "u_out_layer" := by
      rintro rfl
      exact hne 'u' (by decide) (by decide)
    simp [isLocal, Token.isApart, hsampler, hfetch, hlayer]
  | number n => rfl
  | symbol c => rfl

theorem all_declareTokens {P : Token → Bool} {type x : String} {value : List Token}
    (hfront : [.word type, .word x, .symbol '='].all P = true) (hvalue : value.all P = true) :
    (declareTokens type x value).all P = true := by
  have hsplit : declareTokens type x value = [.word type, .word x, .symbol '='] ++ value := rfl
  rw [hsplit, List.all_append, hfront, hvalue]
  rfl

theorem isLocal_callTokens {f : String} {args : List Token} (hf : isLocal (.word f) = true)
    (hargs : args.all isLocal = true) : (Shader.callTokens f args).all isLocal = true := by
  rw [Shader.callTokens, List.all_cons, List.all_cons, List.all_append, hf, hargs]
  rfl

theorem isLocal_elementwiseStatements (a : Alignment) (op : Arithmetic) :
    ∀ s ∈ elementwiseStatements (Shader.tokens (a.readArgs BodyContext.coordVar).toList)
      (Shader.tokens op.symbol.toList), s.all isLocal = true := by
  have hargs : (Shader.tokens (a.readArgs BodyContext.coordVar).toList).all isLocal = true := by
    cases a <;> decide +kernel
  have hsum : (.word "o" :: (Shader.tokens op.symbol.toList ++ [.word "c"])).all isLocal =
      true := by
    cases op <;> decide +kernel
  simp only [elementwiseStatements, List.forall_mem_cons]
  exact ⟨by decide, by decide, by decide,
    all_declareTokens (by decide) (isLocal_callTokens (by decide) hargs),
    all_declareTokens (by decide) hsum, by decide, List.forall_mem_nil _⟩

theorem isLocal_scaleStatements (after : Bool) (factor bias : Binary64) :
    ∀ s ∈ scaleStatements (resultTokens after
      (Shader.tokens (Template.floatLiteral factor).toList)
      (Shader.tokens (Template.floatLiteral bias).toList)), s.all isLocal = true := by
  have hresult := all_resultTokens (P := isLocal) isLocal_floatLiteral (by decide) after factor bias
  simp only [scaleStatements, List.forall_mem_cons]
  exact ⟨by decide, by decide, all_declareTokens (by decide) hresult, by decide,
    List.forall_mem_nil _⟩

theorem isLocal_splitStatements (d : Axis) (offset : Nat) :
    ∀ s ∈ splitStatements d.lane offset, s.all isLocal = true := by
  simp only [splitStatements, List.forall_mem_cons]
  refine ⟨by decide, ?_, by decide, List.forall_mem_nil _⟩
  cases d <;> rfl

end TensorShader.Operator
