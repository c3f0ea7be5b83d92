import TensorShader.Operator.Builtin
import TensorShader.Proofs.Addressing.Sources
import TensorShader.Proofs.Plan.Extension

/-! The fragments of the operators that come with the library. Their plans are the same for all
layouts, and every fragment of them can be rendered. -/

namespace TensorShader.Operator

open Library

/-- What reading an operand needs. -/
def operandFragments (key : String) (l : LayoutRecord) : List Fragment :=
  [textureFragment key l, texelFragment key l, valueFragment key l]

/-- The fragments of an operator that reads one operand. -/
def originFragments (out x : LayoutRecord) : List Fragment :=
  [transferFragment, positionFragment out] ++ operandFragments originKey x ++ [setOutputFragment]

/-- The fragments of an operator that reads a second operand clamped. -/
def counterFragments (out x y : LayoutRecord) : List Fragment :=
  [transferFragment, positionFragment out, setOutputFragment, clampFragment "counter" y] ++
    (operandFragments "counter" y ++ operandFragments originKey x)

theorem mem_builtins {op : RuledOperator} (h : op ∈ builtins) :
    (∃ name a, op = elementwise name a) ∨ op = scale ∨ op = split := by
  simp only [builtins, List.mem_cons, List.not_mem_nil, or_false] at h
  rcases h with h | h | h | h | h | h
  · exact .inl ⟨_, _, h⟩
  · exact .inl ⟨_, _, h⟩
  · exact .inl ⟨_, _, h⟩
  · exact .inl ⟨_, _, h⟩
  · exact .inr (.inl h)
  · exact .inr (.inr h)

variable {t : LayoutTable} {x y : LayoutRecord}

theorem resolve_elementwise (name : String) (a : Arithmetic) :
    addressing.resolve (elementwise name a).descriptor.requests =
      .ok ⟨[⟨"transferFromNHWCtoNCHW", none⟩, outputPosition, setOutput,
        ⟨"formatNCHW", some "counter"⟩, ⟨"textureDecl", some "counter"⟩,
        ⟨"getTexturePos", some "counter"⟩, ⟨"getValueFromTensorPos", some "counter"⟩,
        ⟨"textureDecl", some "origin"⟩, ⟨"getTexturePos", some "origin"⟩, originValue]⟩ := rfl

theorem provides_elementwise (name : String) (a : Arithmetic) (hx : t.get originKey = .ok x)
    (hy : t.get "counter" = .ok y) :
    addressing.Provides t (elementwise name a).descriptor.requests
      (counterFragments t.output x y) := by
  have hx : t.get "origin" = .ok x := hx
  refine ⟨_, resolve_elementwise name a, ?_⟩
  simp only [Library.render, List.mapM_cons, List.mapM_nil, outputPosition, setOutput, originValue,
    fragment_transfer, fragment_getOutputTensorPos, fragment_setOutput,
    fragment_formatNCHW (layoutOf_of_get _ hy), fragment_textureDecl hy, fragment_getTexturePos (layoutOf_of_get _ hy),
    fragment_getValueFromTensorPos hy, fragment_textureDecl hx,
    fragment_getTexturePos (layoutOf_of_get _ hx),
    fragment_getValueFromTensorPos hx]
  rfl

theorem resolve_scale :
    addressing.resolve scale.descriptor.requests =
      .ok ⟨[⟨"transferFromNHWCtoNCHW", none⟩, outputPosition, ⟨"textureDecl", some "origin"⟩,
        ⟨"getTexturePos", some "origin"⟩, originValue, setOutput]⟩ := rfl

/-- Splitting asks for the transfer first, which finding the output element needs first anyway. -/
theorem resolve_split :
    addressing.resolve split.descriptor.requests = addressing.resolve scale.descriptor.requests :=
  rfl

theorem provides_scale (hx : t.get originKey = .ok x) :
    addressing.Provides t scale.descriptor.requests (originFragments t.output x) := by
  have hx : t.get "origin" = .ok x := hx
  refine ⟨_, resolve_scale, ?_⟩
  simp only [Library.render, List.mapM_cons, List.mapM_nil, outputPosition, setOutput, originValue,
    fragment_transfer, fragment_getOutputTensorPos, fragment_setOutput,
    fragment_textureDecl hx,
    fragment_getTexturePos (layoutOf_of_get _ hx),
    fragment_getValueFromTensorPos hx]
  rfl

theorem provides_split (hx : t.get originKey = .ok x) :
    addressing.Provides t split.descriptor.requests (originFragments t.output x) := by
  obtain ⟨p, hp, hrender⟩ := provides_scale hx
  exact ⟨p, resolve_split.trans hp, hrender⟩

/-- Whatever the layouts of its operands are, an operator has its fragments. -/
theorem exists_provides {op : RuledOperator} (hop : op ∈ builtins)
    (hbound : ∀ o ∈ op.descriptor.inputs, ∃ l, t.get o.binding = .ok l) :
    ∃ fs, addressing.Provides t op.descriptor.requests fs := by
  rcases mem_builtins hop with ⟨name, a, rfl⟩ | rfl | rfl
  · obtain ⟨x, hx⟩ := hbound ⟨"X", "origin"⟩ (by simp [elementwise])
    obtain ⟨y, hy⟩ := hbound ⟨"Y", "counter"⟩ (by simp [elementwise])
    exact ⟨_, provides_elementwise name a hx hy⟩
  · obtain ⟨x, hx⟩ := hbound ⟨"X", "origin"⟩ (by simp [scale])
    exact ⟨_, provides_scale hx⟩
  · obtain ⟨x, hx⟩ := hbound ⟨"X", "origin"⟩ (by simp [split])
    exact ⟨_, provides_split hx⟩

section Calls

open Shader (callIn)

variable {globals : List (String × List Int)} {texel : Texel} {further : List Int}

theorem callIn_position {later earlier : List Fragment} {out : LayoutRecord}
    (hout : out.shape.Nonempty) (hlater : "getOutputTensorPos" ∉ later.map Fragment.ident) :
    callIn (texel.globals further)
        (later ++ positionFragment out :: transferFragment :: earlier) "getOutputTensorPos" [] =
      some (out.coord texel).vector := by
  rw [Shader.callIn_append_of_not_mem hlater]
  exact callIn_positionFragment hout (callIn_transferFragment earlier)

theorem callIn_originFragments {out : LayoutRecord} (hout : out.shape.Nonempty)
    (x : LayoutRecord) :
    callIn (texel.globals further) (originFragments out x).reverse "getOutputTensorPos" [] =
      some (out.coord texel).vector := by
  have hreverse : (originFragments out x).reverse =
      [setOutputFragment, valueFragment originKey x, texelFragment originKey x,
        textureFragment originKey x] ++ positionFragment out :: transferFragment :: [] := rfl
  have hlater : "getOutputTensorPos" ∉ ["setOutput", "getValueFromTensorPos_origin",
      "getTexturePos_origin", "textureDecl_origin"] := by decide
  rw [hreverse]
  exact callIn_position hout hlater

theorem callIn_counterFragments {out : LayoutRecord} (hout : out.shape.Nonempty)
    (x y : LayoutRecord) :
    callIn (texel.globals further) (counterFragments out x y).reverse "getOutputTensorPos" [] =
      some (out.coord texel).vector := by
  have hreverse : (counterFragments out x y).reverse =
      [valueFragment originKey x, texelFragment originKey x, textureFragment originKey x,
        valueFragment "counter" y, texelFragment "counter" y, textureFragment "counter" y,
        clampFragment "counter" y, setOutputFragment] ++
          positionFragment out :: transferFragment :: [] := rfl
  have hlater : "getOutputTensorPos" ∉ ["getValueFromTensorPos_origin", "getTexturePos_origin",
      "textureDecl_origin", "getValueFromTensorPos_counter", "getTexturePos_counter",
      "textureDecl_counter", "formatNCHW_counter", "setOutput"] := by decide
  rw [hreverse]
  exact callIn_position hout hlater

theorem callIn_counterFragments_clamp (out x : LayoutRecord) (y : Layout) (p : Coord) :
    callIn globals (counterFragments out x y).reverse "formatNCHW_counter" p.vector =
      some (Nchw.vector (Nchw.ofFn fun d => min (p.get d) (y.shape.lastIndex.get d))) := by
  have hreverse : (counterFragments out x y).reverse =
      [valueFragment originKey x, texelFragment originKey x, textureFragment originKey x,
        valueFragment "counter" y, texelFragment "counter" y, textureFragment "counter" y] ++
          clampFragment "counter" y :: [setOutputFragment, positionFragment out,
            transferFragment] := rfl
  have hlater : "formatNCHW_counter" ∉ ["getValueFromTensorPos_origin", "getTexturePos_origin",
      "textureDecl_origin", "getValueFromTensorPos_counter", "getTexturePos_counter",
      "textureDecl_counter"] := by decide
  have hread : Shader.Function.read? (clampFragment "counter" y).ident
      (clampFragment "counter" y).source = some (clampFunction y.shape.lastIndex) := by
    have hread := read?_clampText "counter" y.shape.lastIndex
    rw [← y.limits_eq] at hread
    exact hread
  rw [hreverse]
  refine (Shader.callIn_append_of_not_mem hlater).trans ?_
  exact (Shader.callIn_self hread).trans (call_clampFunction _ _ _ p)

end Calls

end TensorShader.Operator
