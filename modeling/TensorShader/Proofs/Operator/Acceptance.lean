import TensorShader.Proofs.Operator.Body

/-! What the bodies of the operators that come with the library ask of parameters and layouts: for
each kind of operator, when its body is written, and which text it is. -/

namespace TensorShader

theorem Params.int_eq_ok_iff {ps : Params} {operator name : String} {i : Int} :
    ps.int operator name = .ok i ↔ ps.find? name = some (.int i) := by
  unfold Params.int
  split
  · rename_i j h
    simp [h]
  · rename_i q hne h
    simp only [h, reduceCtorEq, Option.some.injEq, false_iff]
    rintro rfl
    exact hne i rfl
  · rename_i h
    simp [h]

theorem Axis.mem_all (d : Axis) : d ∈ Axis.all := by cases d <;> decide

/-- A slice of an operand: it starts at an offset on an axis, counted from the end if it is
negative, it agrees with the operand on the other axes, and it ends inside the operand. -/
structure Slice (axis offset : Int) (input output : Shape) : Prop where
  least : -4 ≤ axis
  greatest : axis < 4
  start : 0 ≤ offset
  others : ∀ d, d ≠ Axis.ofInt axis → input.dims.get d = output.dims.get d
  stop : offset + output.dims.get (Axis.ofInt axis) ≤ input.dims.get (Axis.ofInt axis)

namespace Operator

variable {ctx : BodyContext} {x : LayoutRecord} {operator body : String} {d : Axis}

theorem splitAxis_eq_ok_iff (hx : ctx.layouts.get originKey = .ok x) :
    splitAxis ctx operator = .ok d ↔
      ∃ axis offset, ctx.params.find? "axis" = some (.int axis) ∧
        ctx.params.find? "offset" = some (.int offset) ∧
        Slice axis offset x.shape ctx.layouts.output.shape ∧ d = Axis.ofInt axis := by
  unfold splitAxis
  simp only [hx]
  constructor
  · intro h
    obtain ⟨axis, haxis, h⟩ := bind_eq_ok_iff.1 h
    obtain ⟨offset, hoffset, h⟩ := bind_eq_ok_iff.1 h
    refine ⟨axis, offset, Params.int_eq_ok_iff.1 haxis, Params.int_eq_ok_iff.1 hoffset, ?_⟩
    -- the checks of the numbers, of the other dimensions, and of the end of the slice
    split at h
    · cases h
    rename_i hrange
    change (if _ then _ else _) = _ at h
    split at h
    · cases h
    rename_i hothers
    split at h
    · cases h
    rename_i hends
    refine ⟨⟨by omega, by omega, by omega, fun e he => ?_, by omega⟩, (Except.ok.inj h).symm⟩
    refine Classical.byContradiction fun hne => hothers ?_
    exact List.any_eq_true.2 ⟨e, e.mem_all, by simp [he, hne]⟩
  · rintro ⟨axis, offset, haxis, hoffset, hslice, rfl⟩
    refine bind_eq_ok_iff.2 ⟨axis, Params.int_eq_ok_iff.2 haxis, ?_⟩
    refine bind_eq_ok_iff.2 ⟨offset, Params.int_eq_ok_iff.2 hoffset, ?_⟩
    obtain ⟨hleast, hgreatest, hstart, hothers, hstop⟩ := hslice
    rw [if_neg (by omega)]
    change (if _ then _ else _) = _
    rw [if_neg, if_neg (by omega)]
    intro hany
    obtain ⟨e, -, he⟩ := List.any_eq_true.1 hany
    obtain ⟨hne, hdiffers⟩ := of_decide_eq_true he
    exact hdiffers (hothers e hne)

theorem renderBody_eq_ok_iff (op : RuledOperator) {template : Template}
    (hparse : Template.parse op.template = .ok template) :
    op.renderBody ctx = .ok body ↔
      ∃ more, op.rule.additions op.descriptor.name ctx = .ok more ∧
        template.fill (ctx.value more) = .ok body := by
  rw [op.renderBody_eq, BodyRule.render, bind_eq_ok_iff]
  refine exists_congr fun more => and_congr_right fun _ => ?_
  rw [renderNamed_of_parse hparse, mapError_eq_ok_iff]

theorem renderBody_elementwise_eq_ok_iff {name args : String} {axis : Int} {a : Arithmetic}
    (hx : ctx.layouts.get originKey = .ok x) (haxis : ctx.params.find? "axis" = some (.int axis))
    (hargs : ctx.broadcastArgs = some args) :
    (elementwise name a).renderBody ctx = .ok body ↔
      x.shape = ctx.layouts.output.shape ∧ body = elementwiseBody axis args a := by
  have hadditions :
      (elementwise name a).rule.additions (elementwise name a).descriptor.name ctx =
        if x.shape = ctx.layouts.output.shape then .ok [("symbol", .string a.symbol)]
        else .error (.invalidShape ⟨x.shape.dims.toList, .elementwiseMismatch⟩) := by
    show ctx.layouts.get originKey >>= _ = _
    rw [hx]
    rfl
  have hfill := fill_elementwiseTemplate haxis hargs a
  rw [renderBody_eq_ok_iff (elementwise name a) parse_elementwiseSource, hadditions]
  by_cases hshape : x.shape = ctx.layouts.output.shape
  · simp [hshape, hfill, eq_comm]
  · simp [hshape]

theorem renderBody_split_eq_ok_iff (hx : ctx.layouts.get originKey = .ok x) :
    split.renderBody ctx = .ok body ↔
      ∃ axis offset, ctx.params.find? "axis" = some (.int axis) ∧
        ctx.params.find? "offset" = some (.int offset) ∧
        Slice axis offset x.shape ctx.layouts.output.shape ∧
        body = splitBody (Axis.ofInt axis) offset := by
  rw [renderBody_eq_ok_iff split parse_splitSource]
  constructor
  · rintro ⟨more, hmore, hfill⟩
    obtain ⟨d, hd, hlane⟩ := bind_eq_ok_iff.1 hmore
    obtain ⟨axis, offset, haxis, hoffset, hslice, rfl⟩ := (splitAxis_eq_ok_iff hx).1 hd
    obtain rfl := Except.ok.inj hlane
    rw [fill_splitTemplate hoffset] at hfill
    exact ⟨axis, offset, haxis, hoffset, hslice, (Except.ok.inj hfill).symm⟩
  · rintro ⟨axis, offset, haxis, hoffset, hslice, rfl⟩
    refine ⟨[("lane", .string (Axis.ofInt axis).lane)], ?_, fill_splitTemplate hoffset _⟩
    have hd : splitAxis ctx split.descriptor.name = .ok (Axis.ofInt axis) :=
      (splitAxis_eq_ok_iff hx).2 ⟨axis, offset, haxis, hoffset, hslice, rfl⟩
    exact bind_eq_ok_iff.2 ⟨_, hd, rfl⟩

theorem renderBody_scale_eq_ok_iff {factor bias after : Param}
    (hfactor : ctx.params.find? "scale" = some factor) (hbias : ctx.params.find? "bias" = some bias)
    (hafter : ctx.params.find? "bias_after_scale" = some after) :
    scale.renderBody ctx = .ok body ↔
      ∃ s b, factor.asFloat? = some s ∧ bias.asFloat? = some b ∧
        body = scaleBody after.value.isTruthy s b := by
  rw [renderBody_eq_ok_iff scale parse_scaleSource]
  constructor
  · rintro ⟨more, hmore, hfill⟩
    obtain rfl : [] = more := Except.ok.inj hmore
    -- the factor and the bias are evaluated in either branch, so both of them are numbers
    have hnumbers : (∃ s, factor.asFloat? = some s) ∧ ∃ b, bias.asFloat? = some b := by
      obtain ⟨text, htext⟩ := Template.fill_text_eq_ok hfill
      rw [Template.fill_choice (eval_paramExpr hafter 4) (truth_value after)] at htext
      obtain ⟨branch, hbranch, -⟩ := bind_eq_ok_iff.1 htext
      generalize after.value.isTruthy = added at hbranch
      cases added <;>
      · obtain ⟨_, hline⟩ := Template.fill_text_eq_ok hbranch
        obtain ⟨⟨v, hv⟩, _, hrest⟩ := Template.fill_output_eq_ok hline
        obtain ⟨_, hrest⟩ := Template.fill_text_eq_ok hrest
        obtain ⟨⟨w, hw⟩, -⟩ := Template.fill_output_eq_ok hrest
        exact ⟨asFloat?_of_eval hfactor hv, asFloat?_of_eval hbias hw⟩
    obtain ⟨⟨s, hs⟩, b, hb⟩ := hnumbers
    rw [fill_scaleTemplate hfactor hs hbias hb hafter] at hfill
    exact ⟨s, b, hs, hb, (Except.ok.inj hfill).symm⟩
  · rintro ⟨s, b, hs, hb, rfl⟩
    exact ⟨[], rfl, fill_scaleTemplate hfactor hs hbias hb hafter⟩

/-- The body that an operator writes for layouts and parameters. -/
def Writes (op : Operator) (t : LayoutTable) (params : Params) (body : String) : Prop :=
  ∃ ctx, BodyContext.of op.descriptor t params = .ok ctx ∧ op.renderBody ctx = .ok body

variable {t : LayoutTable} {params : Params}

theorem writes_elementwise_iff {name : String} {a : Arithmetic} (hx : t.get originKey = .ok x) :
    (elementwise name a).Writes t params body ↔
      ∃ axis, params.find? "axis" = some (.int axis) ∧ x.shape = t.output.shape ∧
        body = elementwiseBody axis ((Alignment.ofParam axis).readArgs BodyContext.coordVar) a := by
  constructor
  · rintro ⟨ctx, hctx, hbody⟩
    obtain ⟨axis, haxis, hctx⟩ := bind_eq_ok_iff.1 hctx
    obtain rfl := Except.ok.inj hctx
    have haxis := Params.int_eq_ok_iff.1 haxis
    exact ⟨axis, haxis, (renderBody_elementwise_eq_ok_iff hx haxis rfl).1 hbody⟩
  · rintro ⟨axis, haxis, hbody⟩
    have hctx : BodyContext.of (elementwise name a).descriptor t params = .ok ⟨name, t, params,
        some ((Alignment.ofParam axis).readArgs BodyContext.coordVar)⟩ :=
      bind_eq_ok_iff.2 ⟨axis, Params.int_eq_ok_iff.2 haxis, rfl⟩
    exact ⟨_, hctx, (renderBody_elementwise_eq_ok_iff hx haxis rfl).2 hbody⟩

theorem writes_split_iff (hx : t.get originKey = .ok x) :
    split.Writes t params body ↔
      ∃ axis offset, params.find? "axis" = some (.int axis) ∧
        params.find? "offset" = some (.int offset) ∧ Slice axis offset x.shape t.output.shape ∧
        body = splitBody (Axis.ofInt axis) offset := by
  constructor
  · rintro ⟨ctx, hctx, hbody⟩
    obtain rfl : ⟨"split", t, params, none⟩ = ctx := Except.ok.inj hctx
    exact (renderBody_split_eq_ok_iff hx).1 hbody
  · exact fun h => ⟨⟨"split", t, params, none⟩, rfl, (renderBody_split_eq_ok_iff hx).2 h⟩

theorem writes_scale_iff {factor bias after : Param}
    (hfactor : params.find? "scale" = some factor) (hbias : params.find? "bias" = some bias)
    (hafter : params.find? "bias_after_scale" = some after) :
    scale.Writes t params body ↔
      ∃ s b, factor.asFloat? = some s ∧ bias.asFloat? = some b ∧
        body = scaleBody after.value.isTruthy s b := by
  constructor
  · rintro ⟨ctx, hctx, hbody⟩
    obtain rfl : ⟨"scale", t, params, none⟩ = ctx := Except.ok.inj hctx
    exact (renderBody_scale_eq_ok_iff hfactor hbias hafter).1 hbody
  · exact fun h => ⟨⟨"scale", t, params, none⟩, rfl,
      (renderBody_scale_eq_ok_iff hfactor hbias hafter).2 h⟩

end Operator

end TensorShader
