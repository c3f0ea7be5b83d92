import TensorShader.Proofs.Kernel.Layouts
import TensorShader.Proofs.Operator.Acceptance
import TensorShader.Proofs.Operator.Fragments

/-! The stages of assembling a kernel: what a kernel is made of, and where an error comes from. The
operators that come with the library fail because of their parameters or shapes only, whatever else
is registered. -/

namespace TensorShader

/-- Whether an error says that subroutines or bindings do not fit together. -/
def Error.isResolution : Error → Bool
  | .unknownSubroutine _ | .bindingMismatch _ _ | .subroutineCycle _ | .unboundOperand _ => true
  | _ => false

theorem Params.int_eq_error {ps : Params} {operator name : String} {e : Error}
    (h : ps.int operator name = .error e) : e.isResolution = false := by
  unfold Params.int at h
  split at h <;> cases h <;> rfl

namespace Operator

theorem splitAxis_eq_error {ctx : BodyContext} {x : LayoutRecord} {operator : String} {e : Error}
    (hx : ctx.layouts.get originKey = .ok x) (h : splitAxis ctx operator = .error e) :
    e.isResolution = false := by
  unfold splitAxis at h
  rcases bind_eq_error_iff.1 h with h | ⟨axis, -, h⟩
  · exact Params.int_eq_error h
  rcases bind_eq_error_iff.1 h with h | ⟨offset, -, h⟩
  · exact Params.int_eq_error h
  split at h
  · cases h
    rfl
  rw [hx] at h
  change (if _ then _ else _) = _ at h
  split at h
  · cases h
    rfl
  split at h <;> cases h
  rfl

theorem renderBody_eq_error {op : RuledOperator} {ctx : BodyContext} {x : LayoutRecord} {e : Error}
    (hx : ctx.layouts.get originKey = .ok x) (h : op.renderBody ctx = .error e) :
    e.isResolution = false := by
  rw [op.renderBody_eq] at h
  rcases bind_eq_error_iff.1 h with h | ⟨more, -, h⟩
  · unfold BodyRule.additions at h
    split at h
    · cases h
    · rw [hx] at h
      change (if _ then _ else _) = _ at h
      split at h <;> cases h
      rfl
    · rcases bind_eq_error_iff.1 h with h | ⟨d, -, h⟩
      · exact splitAxis_eq_error hx h
      · cases h
  · obtain ⟨fault, -, rfl⟩ := renderNamed_eq_error h
    rfl

end Operator

theorem BodyContext.of_eq_error {d : Descriptor} {t : LayoutTable} {params : Params} {e : Error}
    (h : BodyContext.of d t params = .error e) : e.isResolution = false := by
  unfold BodyContext.of at h
  split at h
  · rcases bind_eq_error_iff.1 h with h | ⟨axis, -, h⟩
    · exact Params.int_eq_error h
    · cases h
  · cases h

namespace BodyContext

variable {d : Descriptor} {t : LayoutTable} {params : Params} {ctx : BodyContext}

theorem of_eq_ok (h : BodyContext.of d t params = .ok ctx) :
    ctx.layouts = t ∧ ctx.params = params := by
  unfold BodyContext.of at h
  split at h
  · obtain ⟨axis, -, h⟩ := bind_eq_ok_iff.1 h
    cases h
    exact ⟨rfl, rfl⟩
  · cases h
    exact ⟨rfl, rfl⟩

end BodyContext

namespace Assembler

variable {a : Assembler} {op : Operator} {d : Descriptor} {params : Params} {shapes : OperandShapes}
  {t : LayoutTable} {k : Kernel} {e : Error}

theorem checkParams_eq_ok_iff :
    checkParams d params = .ok () ↔ ∀ name ∈ d.params, params.contains name = true := by
  unfold checkParams
  split
  · rename_i name h
    have hmissing : ¬params.contains name = true := by simpa using List.find?_some h
    simp only [reduceCtorEq, false_iff]
    exact fun hall => hmissing (hall name (List.mem_of_find?_eq_some h))
  · rename_i h
    simpa using List.find?_eq_none.1 h

theorem checkParams_eq_error (h : checkParams d params = .error e) : e.isResolution = false := by
  unfold checkParams at h
  split at h <;> cases h
  rfl

theorem layout_eq_error {s : Shape} (h : a.layout s = .error e) : e.isResolution = false := by
  rcases bind_eq_error_iff.1 h with h | ⟨l, -, h⟩
  · cases hof : Layout.of s a.config.packing with
    | error f =>
      rw [hof] at h
      cases h
      rfl
    | ok l =>
      rw [hof] at h
      cases h
  · simp only at h
    split at h <;> cases h
    rfl

theorem layouts_eq_error (h : a.layouts d shapes = .error e) : e.isResolution = false := by
  rcases bind_eq_error_iff.1 h with h | ⟨out, -, h⟩
  · exact layout_eq_error h
  obtain ⟨o, -, t, h⟩ := foldlM_eq_error h
  unfold bindOperand at h
  split at h
  · cases h
    rfl
  · exact layout_eq_error (map_eq_error_iff.1 h)

def kernel (a : Assembler) (d : Descriptor) (t : LayoutTable) (fs : List Fragment) (body : String) :
    Kernel where
  operator := d.name
  source := header a.config ++ paragraphs (fs.map (·.source) ++ [body])
  inputNames := d.inputNames
  samplers := d.inputs.map fun operand => (operand.name, samplerName operand.binding)
  output := t.output

theorem assemble_eq_ok_iff :
    a.assemble op params shapes = .ok k ↔
      checkParams op.descriptor params = .ok () ∧
        ∃ t, a.layouts op.descriptor shapes = .ok t ∧
          ∃ fs, a.library.Provides t op.descriptor.requests fs ∧
            ∃ body, op.Writes t params body ∧ k = a.kernel op.descriptor t fs body := by
  simp only [assemble, bind_eq_ok_iff, Library.Provides, Operator.Writes]
  constructor
  · rintro ⟨_, hparams, t, ht, p, hp, fs, hfs, ctx, hctx, body, hbody, hk⟩
    exact ⟨hparams, t, ht, fs, ⟨p, hp, hfs⟩, body, ⟨ctx, hctx, hbody⟩, (Except.ok.inj hk).symm⟩
  · rintro ⟨hparams, t, ht, fs, ⟨p, hp, hfs⟩, body, ⟨ctx, hctx, hbody⟩, rfl⟩
    exact ⟨(), hparams, t, ht, p, hp, fs, hfs, ctx, hctx, body, hbody, rfl⟩

end Assembler

namespace Operator

open Library

variable {op : RuledOperator} {a : Assembler} {params : Params} {shapes : OperandShapes}
  {t : LayoutTable} {e : Error}

theorem nodup_bindings (hop : op ∈ builtins) :
    (op.descriptor.inputs.map (·.binding)).Nodup := by
  revert op
  decide

theorem operand_layout (hop : op ∈ builtins) (ht : a.layouts op.descriptor shapes = .ok t)
    {o : Operand} (ho : o ∈ op.descriptor.inputs) :
    ∃ l : Layout, shapes.get? o.name = some l.shape ∧ l.packing = a.config.packing ∧
      t.get o.binding = .ok l :=
  Assembler.operand_of_layouts (nodup_bindings hop) ht ho

theorem origin_mem_inputs (hop : op ∈ builtins) : ⟨"X", originKey⟩ ∈ op.descriptor.inputs := by
  revert op
  decide

theorem origin_layout (hop : op ∈ builtins) (ht : a.layouts op.descriptor shapes = .ok t) :
    ∃ x, t.get originKey = .ok x ∧ shapes.get? "X" = some x.shape ∧
      t.output.shape = shapes.output := by
  obtain ⟨x, hx, -, hget⟩ := operand_layout hop ht (origin_mem_inputs hop)
  exact ⟨x, hget, hx, (Assembler.output_of_layouts ht).1⟩

theorem find?_of_contains {name : String} (h : params.contains name = true) :
    ∃ q, params.find? name = some q := Option.isSome_iff_exists.1 h

/-- Assembling an operator that comes with the library fails because of parameters or shapes. -/
theorem assemble_eq_error (hop : op ∈ builtins) (hlib : addressing.Extended a.library)
    (h : a.assemble op params shapes = .error e) : e.isResolution = false := by
  rcases bind_eq_error_iff.1 h with h | ⟨-, -, h⟩
  · exact Assembler.checkParams_eq_error h
  rcases bind_eq_error_iff.1 h with h | ⟨t, ht, h⟩
  · exact Assembler.layouts_eq_error h
  obtain ⟨fs, p, hp, hfs⟩ := exists_provides (t := t) hop fun o ho => by
    obtain ⟨l, -, -, hl⟩ := operand_layout hop ht ho
    exact ⟨l, hl⟩
  -- the library resolves and renders what the addressing library does
  rcases bind_eq_error_iff.1 h with h | ⟨p', hp', h⟩
  · rw [hlib.resolve hp] at h
    cases h
  obtain rfl : p = p' := Except.ok.inj ((hlib.resolve hp).symm.trans hp')
  rcases bind_eq_error_iff.1 h with h | ⟨fs', -, h⟩
  · rw [hlib.render hfs] at h
    cases h
  rcases bind_eq_error_iff.1 h with h | ⟨ctx, hctx, h⟩
  · exact BodyContext.of_eq_error h
  rcases bind_eq_error_iff.1 h with h | ⟨body, -, h⟩
  · obtain ⟨x, hx, -⟩ := origin_layout hop ht
    obtain ⟨hlayouts, -⟩ := BodyContext.of_eq_ok hctx
    exact renderBody_eq_error (hlayouts ▸ hx) h
  · cases h

end Operator

end TensorShader
