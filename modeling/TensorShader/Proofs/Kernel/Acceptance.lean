import TensorShader.Proofs.Kernel.Assembly

/-! The uses of the operators that come with the library for which there is a kernel, in terms of
the settings, the parameters and the shapes alone. -/

namespace TensorShader

/-- The parameter is a number, and not a truth value. -/
def Param.IsNumber (q : Param) : Prop := ∀ b, q ≠ .bool b

theorem Param.exists_asFloat?_iff {q : Param} : (∃ x, q.asFloat? = some x) ↔ q.IsNumber := by
  cases q <;> simp [IsNumber, asFloat?]

theorem Param.isNumber_int (i : Int) : (Param.int i).IsNumber := by
  intro b h
  cases h

/-- What an operator that comes with the library asks of its parameters and shapes, beyond being
given. An elementwise operator needs an axis and a first operand shaped like the output, `split`
needs a slice of its operand, and `scale` numbers. -/
def RuledOperator.Accepts (op : RuledOperator) (params : Params) (shapes : OperandShapes) : Prop :=
  match op.rule with
  | .plain => ∃ factor bias, params.find? "scale" = some factor ∧ params.find? "bias" = some bias ∧
      factor.IsNumber ∧ bias.IsNumber
  | .elementwise _ => (∃ axis, params.find? "axis" = some (.int axis)) ∧
      shapes.get? "X" = some shapes.output
  | .split => ∃ axis offset input, params.find? "axis" = some (.int axis) ∧
      params.find? "offset" = some (.int offset) ∧ shapes.get? "X" = some input ∧
      Slice axis offset input shapes.output

namespace Operator

open Library

variable {op : RuledOperator} {a : Assembler} {params : Params} {shapes : OperandShapes}
  {t : LayoutTable}

theorem exists_writes_iff (hop : op ∈ builtins) (ht : a.layouts op.descriptor shapes = .ok t)
    (hparams : ∀ name ∈ op.descriptor.params, params.contains name = true) :
    (∃ body, op.Writes t params body) ↔ op.Accepts params shapes := by
  obtain ⟨x, hx, hshape, hout⟩ := origin_layout hop ht
  rcases mem_builtins hop with ⟨name, arithmetic, rfl⟩ | rfl | rfl
  · constructor
    · rintro ⟨body, hbody⟩
      obtain ⟨axis, haxis, heq, -⟩ := (writes_elementwise_iff hx).1 hbody
      exact ⟨⟨axis, haxis⟩, by rw [hshape, heq, hout]⟩
    · rintro ⟨⟨axis, haxis⟩, hsame⟩
      have heq : x.shape = t.output.shape := by
        rw [hout]
        exact Option.some.inj (hshape.symm.trans hsame)
      exact ⟨_, (writes_elementwise_iff hx).2 ⟨axis, haxis, heq, rfl⟩⟩
  · obtain ⟨factor, hfactor⟩ := find?_of_contains (hparams "scale" (by simp [scale]))
    obtain ⟨bias, hbias⟩ := find?_of_contains (hparams "bias" (by simp [scale]))
    obtain ⟨after, hafter⟩ := find?_of_contains (hparams "bias_after_scale" (by simp [scale]))
    constructor
    · rintro ⟨body, hbody⟩
      obtain ⟨s, b, hs, hb, -⟩ := (writes_scale_iff hfactor hbias hafter).1 hbody
      exact ⟨factor, bias, hfactor, hbias, Param.exists_asFloat?_iff.1 ⟨s, hs⟩,
        Param.exists_asFloat?_iff.1 ⟨b, hb⟩⟩
    · rintro ⟨_, _, hfactor, hbias, hs, hb⟩
      obtain ⟨s, hs⟩ := Param.exists_asFloat?_iff.2 hs
      obtain ⟨b, hb⟩ := Param.exists_asFloat?_iff.2 hb
      exact ⟨_, (writes_scale_iff hfactor hbias hafter).2 ⟨s, b, hs, hb, rfl⟩⟩
  · constructor
    · rintro ⟨body, hbody⟩
      obtain ⟨axis, offset, haxis, hoffset, hslice, -⟩ := (writes_split_iff hx).1 hbody
      exact ⟨axis, offset, x.shape, haxis, hoffset, hshape, hout ▸ hslice⟩
    · rintro ⟨axis, offset, input, haxis, hoffset, hinput, hslice⟩
      obtain rfl : x.shape = input := Option.some.inj (hshape.symm.trans hinput)
      exact ⟨_, (writes_split_iff hx).2 ⟨axis, offset, haxis, hoffset, hout ▸ hslice, rfl⟩⟩

theorem exists_kernel_iff (hop : op ∈ builtins) (hlib : addressing.Extended a.library) :
    (∃ k, a.assemble op params shapes = .ok k) ↔
      (∀ name ∈ op.descriptor.params, params.contains name = true) ∧
      (a.config.Admits shapes.output ∧
        ∀ o ∈ op.descriptor.inputs, ∃ s, shapes.get? o.name = some s ∧ a.config.Admits s) ∧
      op.Accepts params shapes := by
  simp only [Assembler.assemble_eq_ok_iff, Assembler.checkParams_eq_ok_iff]
  constructor
  · rintro ⟨_, hparams, t, ht, -, -, body, hbody, -⟩
    exact ⟨hparams, Assembler.exists_layouts_iff.1 ⟨t, ht⟩,
      (exists_writes_iff hop ht hparams).1 ⟨body, hbody⟩⟩
  · rintro ⟨hparams, hadmits, haccepts⟩
    obtain ⟨t, ht⟩ := Assembler.exists_layouts_iff.2 hadmits
    obtain ⟨fs, hfs⟩ := exists_provides (t := t) hop fun o ho => by
      obtain ⟨l, -, -, hl⟩ := operand_layout hop ht ho
      exact ⟨l, hl⟩
    obtain ⟨body, hbody⟩ := (exists_writes_iff hop ht hparams).2 haccepts
    exact ⟨_, hparams, t, ht, fs, hlib.provides hfs, body, hbody, rfl⟩

/-- Under any settings, and whatever else is registered, there is a kernel of an operator exactly if
all its parameters are given, the shapes of its output and operands are admitted, and it accepts
them. An error is never about subroutines or bindings. -/
theorem assemble_succeeds_iff (config : Config) (lib : Library) (params : Params)
    (shapes : OperandShapes) (hop : op ∈ builtins) (hlib : addressing.Extended lib) :
    ((∃ k, (Assembler.mk config lib).assemble op params shapes = .ok k) ↔
      (∀ name ∈ op.descriptor.params, params.contains name = true) ∧
      (config.Admits shapes.output ∧
        ∀ o ∈ op.descriptor.inputs, ∃ s, shapes.get? o.name = some s ∧ config.Admits s) ∧
      op.Accepts params shapes) ∧
    ∀ e, (Assembler.mk config lib).assemble op params shapes = .error e →
      e.isResolution = false :=
  ⟨exists_kernel_iff hop hlib, fun _ he => assemble_eq_error hop hlib he⟩

/-- A subroutine that no operator calls. -/
def noise : Subroutine := ⟨"noise", false, [], "float noise() \x7b return 0.5; \x7d"⟩

/-- The parameters of the second half of the channels. -/
def halfParams : Params := .ofList [("axis", .int (-3)), ("offset", .int 2)]

/-- An input of 4 channels, of which the output has 2. -/
def halfShapes : OperandShapes := (OperandShapes.ofOutput ⟨⟨1, 2, 3, 5⟩⟩).input "X" ⟨⟨1, 4, 3, 5⟩⟩

/-- The settings of a device with small textures, on which channels stand side by side. -/
def smallDevice : Config := { packing := .channelMajor, maxTextureSize := 20 }

/-- The second half of the channels fits on the device, and splitting accepts it. -/
theorem accepts_half :
    (∀ name ∈ split.descriptor.params, halfParams.contains name = true) ∧
      (smallDevice.Admits halfShapes.output ∧ ∀ o ∈ split.descriptor.inputs,
        ∃ s, halfShapes.get? o.name = some s ∧ smallDevice.Admits s) ∧
      split.Accepts halfParams halfShapes := by
  refine ⟨by decide, ⟨⟨by decide, by decide, by decide, by decide, by decide⟩, ?_⟩, ?_⟩
  · intro o ho
    obtain rfl := List.mem_singleton.1 ho
    exact ⟨⟨⟨1, 4, 3, 5⟩⟩, by decide, by decide, by decide, by decide, by decide, by decide⟩
  · refine ⟨-3, 2, ⟨⟨1, 4, 3, 5⟩⟩, by decide, by decide, by decide, by decide, by decide,
      by decide, fun d => ?_, by decide⟩
    cases d <;> decide

/-- The second half of the channels has a kernel, also with another subroutine registered. -/
theorem assemble_succeeds_iff_half :
    split ∈ builtins ∧ (addressing.register noise).1 = .ok () ∧
      addressing.Extended (addressing.register noise).2 ∧
      ∃ k, (Assembler.mk smallDevice (addressing.register noise).2).assemble split halfParams
        halfShapes = .ok k := by
  have hop : split ∈ builtins := by simp [builtins]
  have hfree : addressing.find? noise.name = none := by decide
  have hregister : (addressing.register noise).1 = .ok () :=
    congrArg Prod.fst (Registry.register_of_find?_none hfree _ _)
  have hlib : addressing.Extended (addressing.register noise).2 := .register noise .refl
  exact ⟨hop, hregister, hlib,
    (assemble_succeeds_iff smallDevice _ halfParams halfShapes hop hlib).1.2 accepts_half⟩

end Operator

end TensorShader
