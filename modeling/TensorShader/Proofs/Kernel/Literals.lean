import TensorShader.Proofs.Kernel.Acceptance
import TensorShader.Proofs.Kernel.Numbers

/-! Whether the numbers in the source of a kernel are legal as literals. They are extents of its
output and operands, and parameters. Not all of them are checked, so a kernel can be assembled that
holds an integer too great for a shader, or the name of a value that is not finite. -/

namespace TensorShader

open Library
open Template (Folded Piece)

theorem forall_positionExtents_iff {P : Nat → Prop} (packing : Packing) (s : Shape) :
    (∀ n ∈ positionExtents packing s, P n) ↔ ∀ n ∈ texelExtents packing s, P n := by
  cases packing <;> simp [positionExtents, texelExtents, and_comm]

/-- A shader has the extents by which the texels of a shape are found. -/
def Packing.StridesFit (packing : Packing) (s : Shape) : Prop :=
  ∀ n ∈ texelExtents packing s, (n : Int) < Folded.intBound

theorem legal_texelExtents_iff {packing : Packing} {s : Shape} :
    (∀ n ∈ (texelExtents packing s).map Folded.nat, n.Legal) ↔ packing.StridesFit s := by
  rw [List.forall_mem_map]
  exact forall₂_congr fun n _ => Folded.legal_nat_iff

theorem legal_positionExtents_iff {packing : Packing} {s : Shape} :
    (∀ n ∈ (positionExtents packing s).map Folded.nat, n.Legal) ↔ packing.StridesFit s := by
  rw [List.forall_mem_map, forall_positionExtents_iff, ← List.forall_mem_map]
  exact legal_texelExtents_iff

theorem legal_limits_iff (l : Layout) :
    (∀ n ∈ l.limits.toList.map Folded.int, n.Legal) ↔
      ∀ d, (l.shape.dims.get d : Int) ≤ Folded.intBound := by
  have hlast (d : Axis) : (Folded.int (l.limits.get d)).Legal ↔
      (l.shape.dims.get d : Int) ≤ Folded.intBound := by
    have hpos := l.nonempty d
    rw [l.limits_eq, Nchw.get_map, ← Folded.nat, Folded.legal_nat_iff, Shape.lastIndex,
      Nchw.get_map]
    omega
  rw [List.forall_mem_map, Nchw.toList_eq_map_get, List.forall_mem_map]
  exact ⟨fun h d => (hlast d).1 (h d d.mem_all), fun h d _ => (hlast d).2 (h d)⟩

/-- The shapes of the output and of the operands of an operator. -/
def OperandShapes.used (shapes : OperandShapes) (d : Descriptor) : List Shape :=
  shapes.output :: d.inputs.filterMap fun o => shapes.get? o.name

/-- The extents of a shape that a device admits are at most as large as its textures. -/
theorem Config.Admits.stridesFit {c : Config} {s : Shape} (h : c.Admits s)
    (hlimit : (c.maxTextureSize.toNat : Int) < Folded.intBound) : c.packing.StridesFit s := by
  obtain ⟨hn, hc, -, -⟩ := s.nonempty_iff.1 h.nonempty
  have hheight : s.dims.h ≤ c.maxTextureSize.toNat :=
    Nat.le_trans (Nat.le_mul_of_pos_right _ hn) h.height_le
  have hwidth := h.width_le
  intro m hm
  cases hpacking : c.packing with
  | plain =>
    rw [hpacking] at hm
    obtain rfl := List.mem_singleton.1 hm
    omega
  | channelMajor =>
    rw [hpacking] at hm hwidth
    have hle : s.dims.w ≤ c.maxTextureSize.toNat :=
      Nat.le_trans (Nat.le_mul_of_pos_right _ hc) hwidth
    simp only [texelExtents, List.mem_cons, List.not_mem_nil, or_false] at hm
    rcases hm with rfl | rfl <;> omega

/-- What the numbers in the source of a kernel are: those of its fragments, which are written for
layouts, and those of its body. -/
structure Assembler.Folds (a : Assembler) (op : RuledOperator) (params : Params)
    (shapes : OperandShapes) (t : LayoutTable) (fragments : List (List Folded))
    (body : List Piece) (ns : List Folded) : Prop where
  declared : ∀ name ∈ op.descriptor.params, params.contains name = true
  layouts : a.layouts op.descriptor shapes = .ok t
  rendered : ∃ p, a.library.resolve op.descriptor.requests = .ok p ∧
    p.instances.mapM (a.library.numbersOf t) = .ok fragments
  written : ∃ ctx, BodyContext.of op.descriptor t params = .ok ctx ∧ op.bodyPieces ctx = .ok body
  numbers : ns = fragments.flatten ++ Piece.numbers body

theorem Assembler.exists_folds {a : Assembler} {op : RuledOperator} {params : Params}
    {shapes : OperandShapes} {k : Kernel} (h : a.assemble op params shapes = .ok k) :
    ∃ ps, a.pieces op params shapes = .ok ps ∧ k.source = Piece.join ps ∧
      ∃ t fragments body, a.Folds op params shapes t fragments body (Piece.numbers ps) := by
  have hsource := a.source_assemble op params shapes
  rw [h] at hsource
  obtain ⟨ps, hps, hjoin⟩ := map_eq_ok_iff.1 hsource.symm
  refine ⟨ps, hps, hjoin.symm, ?_⟩
  obtain ⟨u, hparams, hstages⟩ := bind_eq_ok_iff.1 hps
  obtain ⟨t, ht, hstages⟩ := bind_eq_ok_iff.1 hstages
  obtain ⟨p, hp, hstages⟩ := bind_eq_ok_iff.1 hstages
  obtain ⟨pss, hpss, hstages⟩ := bind_eq_ok_iff.1 hstages
  obtain ⟨ctx, hctx, hstages⟩ := bind_eq_ok_iff.1 hstages
  obtain ⟨body, hbody, hstages⟩ := bind_eq_ok_iff.1 hstages
  obtain rfl := Except.ok.inj hstages
  have hnumbers : p.instances.mapM (a.library.numbersOf t) = .ok (pss.map Piece.numbers) := by
    have hmap := map_mapM (f := a.library.fragmentPieces t) Piece.numbers p.instances
    rw [hpss] at hmap
    exact hmap.symm
  refine ⟨t, _, body, ⟨checkParams_eq_ok_iff.1 hparams, ht, ⟨p, hp, hnumbers⟩, ⟨ctx, hctx, hbody⟩,
    ?_⟩⟩
  rw [Piece.numbers, numbers_paragraphPieces, List.map_append, List.flatten_append]
  simp

/-- What an operator that comes with the library folds into its source, beside the extents by which
texels are found, is legal: an axis and the greatest indices of the operand that is clamped, an
offset, or a factor and a bias. -/
def RuledOperator.FoldsLegal (op : RuledOperator) (params : Params) (shapes : OperandShapes) :
    Prop :=
  match op.rule with
  | .plain => ∃ factor bias s b, params.find? "scale" = some factor ∧
      params.find? "bias" = some bias ∧ factor.asFloat? = some s ∧ bias.asFloat? = some b ∧
      s.isFinite = true ∧ b.isFinite = true
  | .elementwise _ => ∃ axis y, params.find? "axis" = some (.int axis) ∧
      shapes.get? "Y" = some y ∧ (-Folded.intBound ≤ axis ∧ axis < Folded.intBound) ∧
      ∀ d, (y.dims.get d : Int) ≤ Folded.intBound
  | .split => ∃ offset, params.find? "offset" = some (.int offset) ∧ offset < Folded.intBound

namespace Operator

variable {config : Config} {op : RuledOperator} {params : Params} {shapes : OperandShapes} {k : Kernel}
  {t : LayoutTable} {x y : LayoutRecord} {ctx : BodyContext} {fragments : List (List Folded)}
  {body : List Piece} {ns : List Folded}

theorem numbersOf_elementwise (hx : t.get originKey = .ok x) (hy : t.get "counter" = .ok y) :
    [⟨"transferFromNHWCtoNCHW", none⟩, outputPosition, setOutput,
        ⟨"formatNCHW", some "counter"⟩, ⟨"textureDecl", some "counter"⟩,
        ⟨"getTexturePos", some "counter"⟩, ⟨"getValueFromTensorPos", some "counter"⟩,
        ⟨"textureDecl", some "origin"⟩, ⟨"getTexturePos", some "origin"⟩, originValue].mapM
      (addressing.numbersOf t) =
      .ok [[], (positionExtents t.output.packing t.output.shape).map .nat, [],
        y.limits.toList.map .int, [], (texelExtents y.packing y.shape).map .nat, [], [],
        (texelExtents x.packing x.shape).map .nat, []] := by
  have hx : t.get "origin" = .ok x := hx
  simp only [List.mapM_cons, List.mapM_nil, outputPosition, setOutput, originValue,
    numbersOf_transfer, numbersOf_getOutputTensorPos, numbersOf_setOutput, numbersOf_formatNCHW hy,
    numbersOf_textureDecl hy, numbersOf_getTexturePos hy, numbersOf_getValueFromTensorPos hy,
    numbersOf_textureDecl hx, numbersOf_getTexturePos hx, numbersOf_getValueFromTensorPos hx]
  rfl

theorem numbersOf_origin (hx : t.get originKey = .ok x) :
    [⟨"transferFromNHWCtoNCHW", none⟩, outputPosition, ⟨"textureDecl", some "origin"⟩,
        ⟨"getTexturePos", some "origin"⟩, originValue, setOutput].mapM (addressing.numbersOf t) =
      .ok [[], (positionExtents t.output.packing t.output.shape).map .nat, [],
        (texelExtents x.packing x.shape).map .nat, [], []] := by
  have hx : t.get "origin" = .ok x := hx
  simp only [List.mapM_cons, List.mapM_nil, outputPosition, setOutput, originValue,
    numbersOf_transfer, numbersOf_getOutputTensorPos, numbersOf_setOutput,
    numbersOf_textureDecl hx, numbersOf_getTexturePos hx, numbersOf_getValueFromTensorPos hx]
  rfl

theorem numbers_body_elementwise {name : String} {b : Arithmetic}
    (hctx : BodyContext.of (elementwise name b).descriptor t params = .ok ctx)
    (hbody : (elementwise name b).bodyPieces ctx = .ok body) :
    ∃ axis, params.find? "axis" = some (.int axis) ∧ Piece.numbers body = [.int axis] := by
  obtain ⟨-, rfl⟩ := BodyContext.of_eq_ok hctx
  obtain ⟨axis, haxis, hctx⟩ := bind_eq_ok_iff.1 hctx
  have haxis := Params.int_eq_ok_iff.1 haxis
  have hargs : ctx.broadcastArgs =
      some ((Alignment.ofParam axis).readArgs BodyContext.coordVar) := by
    rw [← Except.ok.inj hctx]
  obtain ⟨more, hmore, hpieces⟩ := (bodyPieces_eq_ok_iff (elementwise name b)
    parse_elementwiseSource).1 hbody
  obtain ⟨l, -, hmore⟩ := bind_eq_ok_iff.1 hmore
  split at hmore
  · obtain rfl := Except.ok.inj hmore
    have hnumbers := numbers_elementwiseTemplate b haxis hargs
    rw [hpieces] at hnumbers
    exact ⟨axis, haxis, Except.ok.inj hnumbers⟩
  · cases hmore

theorem numbers_body_split (hx : t.get originKey = .ok x)
    (hctx : BodyContext.of split.descriptor t params = .ok ctx)
    (hbody : split.bodyPieces ctx = .ok body) :
    ∃ offset, params.find? "offset" = some (.int offset) ∧ 0 ≤ offset ∧
      Piece.numbers body = [.int offset] := by
  obtain ⟨rfl, rfl⟩ := BodyContext.of_eq_ok hctx
  obtain ⟨more, hmore, hpieces⟩ := (bodyPieces_eq_ok_iff split parse_splitSource).1 hbody
  obtain ⟨d, hd, hmore⟩ := bind_eq_ok_iff.1 hmore
  obtain rfl := Except.ok.inj hmore
  obtain ⟨axis, offset, -, hoffset, hslice, -⟩ := (splitAxis_eq_ok_iff hx).1 hd
  have hnumbers := numbers_splitTemplate d hoffset
  rw [hpieces] at hnumbers
  exact ⟨offset, hoffset, hslice.start, Except.ok.inj hnumbers⟩

theorem numbers_body_scale (hparams : ∀ name ∈ scale.descriptor.params, params.contains name = true)
    (hctx : BodyContext.of scale.descriptor t params = .ok ctx)
    (hbody : scale.bodyPieces ctx = .ok body) :
    ∃ factor bias s b, params.find? "scale" = some factor ∧ params.find? "bias" = some bias ∧
      factor.asFloat? = some s ∧ bias.asFloat? = some b ∧
      Piece.numbers body = [.literal s, .literal b] := by
  obtain ⟨-, rfl⟩ := BodyContext.of_eq_ok hctx
  obtain ⟨factor, hfactor⟩ := find?_of_contains (hparams "scale" (by simp [scale]))
  obtain ⟨bias, hbias⟩ := find?_of_contains (hparams "bias" (by simp [scale]))
  obtain ⟨after, hafter⟩ := find?_of_contains (hparams "bias_after_scale" (by simp [scale]))
  have hwritten : scale.renderBody ctx = .ok (Piece.join body) := by
    rw [scale.join_bodyPieces, hbody]
    rfl
  obtain ⟨s, b, hs, hb, -⟩ := (renderBody_scale_eq_ok_iff hfactor hbias hafter).1 hwritten
  obtain ⟨more, hmore, hpieces⟩ := (bodyPieces_eq_ok_iff scale parse_scaleSource).1 hbody
  obtain rfl : [] = more := Except.ok.inj hmore
  have hnumbers := numbers_scaleTemplate hfactor hs hbias hb hafter
  rw [hpieces] at hnumbers
  exact ⟨factor, bias, s, b, hfactor, hbias, hs, hb, Except.ok.inj hnumbers⟩

theorem legal_iff_elementwise {name : String} {b : Arithmetic}
    (hop : elementwise name b ∈ builtins)
    (h : (Assembler.ofConfig config).Folds (elementwise name b) params shapes t fragments body ns) :
    (∀ n ∈ ns, n.Legal) ↔
      (∀ s ∈ shapes.used (elementwise name b).descriptor, config.packing.StridesFit s) ∧
        (elementwise name b).FoldsLegal params shapes := by
  obtain ⟨hout, hpacking, -⟩ := Assembler.output_of_layouts h.layouts
  obtain ⟨x, hxshape, hxpacking, hx⟩ := operand_layout hop h.layouts (origin_mem_inputs hop)
  have hmem : ⟨"Y", "counter"⟩ ∈ (elementwise name b).descriptor.inputs := by simp [elementwise]
  obtain ⟨y, hyshape, hypacking, hy⟩ := operand_layout hop h.layouts hmem
  obtain ⟨p, hp, hfragments⟩ := h.rendered
  obtain rfl := Except.ok.inj ((resolve_elementwise name b).symm.trans hp)
  obtain rfl := Except.ok.inj ((numbersOf_elementwise hx hy).symm.trans hfragments)
  obtain ⟨ctx, hctx, hbody⟩ := h.written
  obtain ⟨axis, haxis, hfolded⟩ := numbers_body_elementwise hctx hbody
  have hused : shapes.used (elementwise name b).descriptor = [shapes.output, x.shape, y.shape] := by
    simp [OperandShapes.used, elementwise, hxshape, hyshape]
  have hfolds : (elementwise name b).FoldsLegal params shapes ↔ (Folded.int axis).Legal ∧
      ∀ d, (y.shape.dims.get d : Int) ≤ Folded.intBound := by
    simp [RuledOperator.FoldsLegal, elementwise, haxis, hyshape, Folded.Legal]
  rw [h.numbers, hfolded, hused, hfolds, hpacking, hxpacking, hypacking, hout]
  simp only [List.flatten_cons, List.flatten_nil, List.nil_append, List.append_nil,
    List.forall_mem_append, List.forall_mem_cons, List.not_mem_nil, false_implies, implies_true,
    and_true, legal_positionExtents_iff, legal_texelExtents_iff, legal_limits_iff]
  -- the numbers stand in the order of the plan, the conditions in that of the operands
  constructor
  · rintro ⟨⟨hout, hlast, hy, hx⟩, haxis⟩
    exact ⟨⟨hout, hx, hy⟩, haxis, hlast⟩
  · rintro ⟨⟨hout, hx, hy⟩, haxis, hlast⟩
    exact ⟨⟨hout, hlast, hy, hx⟩, haxis⟩

/-- The operators that read one operand have the same fragments, so they differ in their bodies. -/
theorem legal_iff_of_origin (hop : op ∈ builtins)
    (hinputs : op.descriptor.inputs = [⟨"X", "origin"⟩])
    (hplan : addressing.resolve op.descriptor.requests =
      addressing.resolve scale.descriptor.requests)
    (h : (Assembler.ofConfig config).Folds op params shapes t fragments body ns) :
    (∀ n ∈ ns, n.Legal) ↔ (∀ s ∈ shapes.used op.descriptor, config.packing.StridesFit s) ∧
      ∀ n ∈ Piece.numbers body, n.Legal := by
  obtain ⟨hout, hpacking, -⟩ := Assembler.output_of_layouts h.layouts
  obtain ⟨x, hxshape, hxpacking, hx⟩ := operand_layout hop h.layouts (origin_mem_inputs hop)
  obtain ⟨p, hp, hfragments⟩ := h.rendered
  obtain rfl := Except.ok.inj (resolve_scale.symm.trans (hplan.symm.trans hp))
  obtain rfl := Except.ok.inj ((numbersOf_origin hx).symm.trans hfragments)
  have hused : shapes.used op.descriptor = [shapes.output, x.shape] := by
    simp [OperandShapes.used, hinputs, hxshape]
  rw [h.numbers, hused, hpacking, hxpacking, hout]
  simp only [List.flatten_cons, List.flatten_nil, List.nil_append, List.append_nil,
    List.forall_mem_append, List.forall_mem_cons, List.not_mem_nil, false_implies, implies_true,
    and_true, legal_positionExtents_iff, legal_texelExtents_iff]
  rfl

theorem legal_iff_scale
    (h : (Assembler.ofConfig config).Folds scale params shapes t fragments body ns) :
    (∀ n ∈ ns, n.Legal) ↔ (∀ s ∈ shapes.used scale.descriptor, config.packing.StridesFit s) ∧
      scale.FoldsLegal params shapes := by
  obtain ⟨ctx, hctx, hbody⟩ := h.written
  obtain ⟨factor, bias, s, c, hfactor, hbias, hs, hc, hfolded⟩ :=
    numbers_body_scale h.declared hctx hbody
  rw [legal_iff_of_origin (by simp [builtins]) rfl rfl h, hfolded]
  simp [RuledOperator.FoldsLegal, scale, hfactor, hbias, hs, hc, Folded.legal_literal_iff]

theorem legal_iff_split
    (h : (Assembler.ofConfig config).Folds split params shapes t fragments body ns) :
    (∀ n ∈ ns, n.Legal) ↔ (∀ s ∈ shapes.used split.descriptor, config.packing.StridesFit s) ∧
      split.FoldsLegal params shapes := by
  have hop : split ∈ builtins := by simp [builtins]
  obtain ⟨x, hx, -⟩ := origin_layout hop h.layouts
  obtain ⟨ctx, hctx, hbody⟩ := h.written
  obtain ⟨offset, hoffset, hstart, hfolded⟩ := numbers_body_split hx hctx hbody
  have hleast : -Folded.intBound ≤ offset := Int.le_trans (by decide) hstart
  rw [legal_iff_of_origin hop rfl resolve_split h, hfolded]
  simp [RuledOperator.FoldsLegal, split, hoffset, Folded.Legal, hleast]

theorem stridesFit_of_assemble (hop : op ∈ builtins)
    (h : (Assembler.ofConfig config).assemble op params shapes = .ok k)
    (hlimit : (config.maxTextureSize.toNat : Int) < Folded.intBound) :
    ∀ s ∈ shapes.used op.descriptor, config.packing.StridesFit s := by
  obtain ⟨-, ⟨hout, hinputs⟩, -⟩ := (exists_kernel_iff hop .refl).1 ⟨k, h⟩
  intro s hs
  rcases List.mem_cons.1 hs with rfl | hs
  · exact hout.stridesFit hlimit
  · obtain ⟨o, ho, hget⟩ := List.mem_filterMap.1 hs
    obtain ⟨s', hs', hadmits⟩ := hinputs o ho
    obtain rfl := Option.some.inj (hs'.symm.trans hget)
    exact hadmits.stridesFit hlimit

/-- For a kernel of an operator that comes with the library, the pieces of its source hold only
legal numbers exactly if a shader has the extents by which texels are found, and the operator folds
in legal numbers. A device whose textures are not too large for a shader has such extents only, but
the parameters, and the indices of an operand that is clamped, are not limited. -/
theorem literals_legal_iff (config : Config) (params : Params) (shapes : OperandShapes)
    (hop : op ∈ builtins) (h : (Assembler.ofConfig config).assemble op params shapes = .ok k) :
    ∃ ps, (Assembler.ofConfig config).pieces op params shapes = .ok ps ∧
      k.source = Piece.join ps ∧
      ((∀ n ∈ Piece.numbers ps, n.Legal) ↔
        (∀ s ∈ shapes.used op.descriptor, config.packing.StridesFit s) ∧
          op.FoldsLegal params shapes) ∧
      ((config.maxTextureSize.toNat : Int) < Folded.intBound →
        ∀ s ∈ shapes.used op.descriptor, config.packing.StridesFit s) := by
  obtain ⟨ps, hps, hsource, t, fragments, body, hfolds⟩ := Assembler.exists_folds h
  refine ⟨ps, hps, hsource, ?_, stridesFit_of_assemble hop h⟩
  rcases mem_builtins hop with ⟨name, b, rfl⟩ | rfl | rfl
  · exact legal_iff_elementwise hop hfolds
  · exact legal_iff_scale hfolds
  · exact legal_iff_split hfolds

/-- All numbers in the kernel of the second half of the channels are legal. -/
theorem literals_legal_iff_half :
    split ∈ builtins ∧ ∃ k ps,
      (Assembler.ofConfig smallDevice).assemble split halfParams halfShapes = .ok k ∧
      (Assembler.ofConfig smallDevice).pieces split halfParams halfShapes = .ok ps ∧
      k.source = Piece.join ps ∧ ∀ n ∈ Piece.numbers ps, n.Legal := by
  have hop : split ∈ builtins := by simp [builtins]
  obtain ⟨k, hk⟩ := (exists_kernel_iff (a := .ofConfig smallDevice) hop .refl).2 accepts_half
  obtain ⟨ps, hps, hsource, hiff, hstrides⟩ :=
    literals_legal_iff smallDevice halfParams halfShapes hop hk
  refine ⟨hop, k, ps, hk, hps, hsource, hiff.2 ⟨hstrides (by decide), 2, rfl, by decide⟩⟩

/-- An infinite factor. -/
def infiniteParams : Params :=
  .ofList [("scale", .float (.infinity false)), ("bias", .int 0), ("bias_after_scale", .bool false)]

def unitShapes : OperandShapes := (OperandShapes.ofOutput ⟨⟨1, 1, 1, 1⟩⟩).input "X" ⟨⟨1, 1, 1, 1⟩⟩

/-- Not every kernel holds legal numbers only: an infinite factor is written as `inf`. -/
theorem exists_illegal_literal :
    ∃ k ps, (Assembler.ofConfig {}).assemble scale infiniteParams unitShapes = .ok k ∧
      (Assembler.ofConfig {}).pieces scale infiniteParams unitShapes = .ok ps ∧
      k.source = Piece.join ps ∧ Folded.literal (.infinity false) ∈ Piece.numbers ps ∧
      (Folded.literal (.infinity false)).text = "inf" ∧
      ¬(Folded.literal (.infinity false)).Legal := by
  have hop : scale ∈ builtins := by simp [builtins]
  have hunit : Config.Admits {} ⟨⟨1, 1, 1, 1⟩⟩ :=
    ⟨by decide, by decide, by decide, by decide, by decide⟩
  have haccepts : scale.Accepts infiniteParams unitShapes := by
    refine ⟨.float (.infinity false), .int 0, rfl, rfl, ?_, Param.isNumber_int 0⟩
    exact Param.exists_asFloat?_iff.1 ⟨_, rfl⟩
  obtain ⟨k, hk⟩ : ∃ k, (Assembler.ofConfig {}).assemble scale infiniteParams unitShapes = .ok k := by
    refine (exists_kernel_iff hop .refl).2 ⟨by decide, ⟨hunit, fun o ho => ?_⟩, haccepts⟩
    obtain rfl := List.mem_singleton.1 ho
    exact ⟨_, rfl, hunit⟩
  obtain ⟨ps, hps, hsource, t, fragments, body, hfolds⟩ := Assembler.exists_folds hk
  obtain ⟨ctx, hctx, hbody⟩ := hfolds.written
  obtain ⟨factor, bias, s, b, hfactor, -, hs, -, hnumbers⟩ :=
    numbers_body_scale hfolds.declared hctx hbody
  obtain rfl : Param.float (.infinity false) = factor := Option.some.inj hfactor
  obtain rfl : .infinity false = s := Option.some.inj hs
  refine ⟨k, ps, hk, hps, hsource, ?_, by decide, fun hlegal => ?_⟩
  · rw [hfolds.numbers, hnumbers]
    simp
  · exact absurd (Folded.legal_literal_iff.1 hlegal) (by decide)

end Operator

end TensorShader
