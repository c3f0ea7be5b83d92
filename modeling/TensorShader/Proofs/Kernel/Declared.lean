import TensorShader.Proofs.Kernel.Acceptance
import TensorShader.Proofs.Kernel.Stages
import TensorShader.Proofs.Operator.Params
import Mathlib.Data.List.Find

/-! A kernel depends only on what its operator declares: on the shapes of its operands and, for the
operators that come with the library, on its parameters. This holds of the error as well, if there is
no kernel. -/

namespace TensorShader

/-- The shapes have the same output, and the same operands under the given names. -/
structure OperandShapes.AgreeOn (names : List String) (shapes shapes' : OperandShapes) : Prop where
  output : shapes.output = shapes'.output
  operands : ∀ name ∈ names, shapes.get? name = shapes'.get? name

namespace Assembler

variable {a : Assembler} {d : Descriptor} {ps ps' : Params} {shapes shapes' : OperandShapes}

theorem checkParams_congr (h : ps.AgreeOn d.params ps') : checkParams d ps = checkParams d ps' := by
  have hfind : (d.params.find? fun name => !ps.contains name) =
      d.params.find? fun name => !ps'.contains name :=
    List.find?_congr fun name hname => by rw [NameMap.contains, NameMap.contains, h name hname]
  rw [checkParams, checkParams, hfind]

theorem layouts_congr (h : shapes.AgreeOn d.inputNames shapes') :
    a.layouts d shapes = a.layouts d shapes' := by
  have hbind : ∀ o ∈ d.inputs, ∀ t, a.bindOperand d shapes t o = a.bindOperand d shapes' t o :=
    fun o ho t => by
      rw [bindOperand, bindOperand, h.operands o.name (List.mem_map_of_mem ho)]
  rw [layouts, layouts, h.output]
  exact bind_congr fun _ => foldlM_congr hbind

theorem assemble_congr_shapes {op : Operator} (params : Params)
    (h : shapes.AgreeOn op.descriptor.inputNames shapes') :
    a.assemble op params shapes = a.assemble op params shapes' := by
  rw [assemble, assemble, layouts_congr h]

end Assembler

namespace Operator

variable {op : RuledOperator} {ps ps' : Params}

theorem asksDeclared_of_mem_builtins (hop : op ∈ builtins) : op.AsksDeclared := by
  rcases mem_builtins hop with ⟨name, arithmetic, rfl⟩ | rfl | rfl
  · refine ⟨fun t ht => ?_, fun _ => by simp [elementwise], fun h => by cases h⟩
    obtain rfl : elementwiseTemplate = t := Except.ok.inj (parse_elementwiseSource.symm.trans ht)
    rfl
  · refine ⟨fun t ht => ?_, by decide, by decide⟩
    obtain rfl : scaleTemplate = t := Except.ok.inj (parse_scaleSource.symm.trans ht)
    rfl
  · refine ⟨fun t ht => ?_, by decide, by decide⟩
    obtain rfl : splitTemplate = t := Except.ok.inj (parse_splitSource.symm.trans ht)
    rfl

theorem assemble_congr_params (hop : op.AsksDeclared) (a : Assembler) (shapes : OperandShapes)
    (h : ps.AgreeOn op.descriptor.params ps') :
    a.assemble op ps shapes = a.assemble op ps' shapes := by
  have htext (t : LayoutTable) : a.library.text op ps t = a.library.text op ps' t := by
    rw [Library.text, Library.text, hop.body_eq h]
  rw [Assembler.assemble_eq_stages, Assembler.assemble_eq_stages, Assembler.checkParams_congr h]
  simp only [htext]

/-- Whatever the settings, the library, the declaration of an operator and the function that makes
its body, shapes that agree on the output and the declared operands have equal results. Those of the
operators that come with the library are equal also for parameters that agree on the declared
ones. -/
theorem assemble_depends_on_declared (a : Assembler) :
    (∀ (op : Operator) params shapes shapes',
      OperandShapes.AgreeOn op.descriptor.inputNames shapes shapes' →
        a.assemble op params shapes = a.assemble op params shapes') ∧
    ∀ op ∈ builtins, ∀ params params' shapes shapes',
      Params.AgreeOn op.descriptor.params params params' →
      OperandShapes.AgreeOn op.descriptor.inputNames shapes shapes' →
        a.assemble op params shapes = a.assemble op params' shapes' := by
  refine ⟨fun op params shapes shapes' h => Assembler.assemble_congr_shapes params h,
    fun op hop params params' shapes shapes' hparams h => ?_⟩
  calc a.assemble op params shapes
      = a.assemble op params' shapes :=
        assemble_congr_params (asksDeclared_of_mem_builtins hop) a shapes hparams
    _ = a.assemble op params' shapes' := Assembler.assemble_congr_shapes params' h

/-- The parameters of the second half of the channels, and one that `split` does not declare. -/
def spareParams : Params := halfParams.insert "scale" (.int 3)

/-- The shapes of the second half of the channels, and one that has no layout. -/
def spareShapes : OperandShapes := halfShapes.input "Y" ⟨⟨0, 4, 3, 5⟩⟩

/-- What `split` does not declare changes nothing about the kernel of the second half. -/
theorem assemble_depends_on_declared_half :
    split ∈ builtins ∧ halfParams.AgreeOn split.descriptor.params spareParams ∧
      halfShapes.AgreeOn split.descriptor.inputNames spareShapes ∧
      ∃ k, (Assembler.ofConfig smallDevice).assemble split halfParams halfShapes = .ok k ∧
        (Assembler.ofConfig smallDevice).assemble split spareParams spareShapes = .ok k := by
  have hop : split ∈ builtins := by simp [builtins]
  have hparams : halfParams.AgreeOn split.descriptor.params spareParams := by
    unfold Params.AgreeOn
    decide
  have hshapes : halfShapes.AgreeOn split.descriptor.inputNames spareShapes := ⟨rfl, by decide⟩
  obtain ⟨k, hk⟩ := (exists_kernel_iff (a := Assembler.ofConfig smallDevice) hop .refl).2 accepts_half
  refine ⟨hop, hparams, hshapes, k, hk, ?_⟩
  rw [← (assemble_depends_on_declared _).2 split hop _ _ _ _ hparams hshapes]
  exact hk

end Operator

end TensorShader
