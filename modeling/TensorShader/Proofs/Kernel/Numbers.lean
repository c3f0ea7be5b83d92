import TensorShader.Proofs.Addressing.Sources
import TensorShader.Proofs.Kernel.Pieces
import TensorShader.Proofs.Operator.Body

/-! The numbers that the templates of the library fold into shader source: extents of layouts in the
fragments, and parameters in the bodies. -/

namespace TensorShader

open Subroutine (Instance)
open Template (Folded Piece)

namespace Library

/-- The numbers that are folded into the source of an instance. -/
def numbersOf (lib : Library) (t : LayoutTable) (i : Instance) : Except Error (List Folded) :=
  Piece.numbers <$> lib.fragmentPieces t i

theorem numbersOf_eq {lib : Library} {t : LayoutTable} {i : Instance} {s : Subroutine}
    {l : LayoutRecord} {template : Template} {ns : List Folded} (hs : lib.lookup i = .ok s)
    (hl : t.layoutOf i = .ok l) (hparse : Template.parse s.template = .ok template)
    (hnumbers : Piece.numbers <$> template.pieces (i.context l t.output) = .ok ns) :
    lib.numbersOf t i = .ok ns := by
  obtain ⟨ps, hps, rfl⟩ := map_eq_ok_iff.1 hnumbers
  have hpieces : lib.fragmentPieces t i = .ok ps := by
    refine bind_eq_ok_iff.2 ⟨s, hs, bind_eq_ok_iff.2 ⟨l, hl, ?_⟩⟩
    exact mapError_eq_ok_iff.2 (bind_eq_ok_iff.2 ⟨template, hparse, hps⟩)
  rw [numbersOf, hpieces]
  rfl

variable {t : LayoutTable} {key : String} {l : LayoutRecord}

theorem numbersOf_transfer (t : LayoutTable) :
    addressing.numbersOf t ⟨"transferFromNHWCtoNCHW", none⟩ = .ok [] :=
  numbersOf_eq rfl rfl parse_transferSource rfl

theorem numbersOf_setOutput (t : LayoutTable) :
    addressing.numbersOf t ⟨"setOutput", none⟩ = .ok [] :=
  numbersOf_eq rfl rfl parse_setOutputSource rfl

theorem numbersOf_textureDecl (hl : t.get key = .ok l) :
    addressing.numbersOf t ⟨"textureDecl", some key⟩ = .ok [] :=
  numbersOf_eq rfl (layoutOf_of_get _ hl) parse_textureSource rfl

theorem numbersOf_getValueFromTensorPos (hl : t.get key = .ok l) :
    addressing.numbersOf t ⟨"getValueFromTensorPos", some key⟩ = .ok [] := by
  refine numbersOf_eq rfl (layoutOf_of_get _ hl) parse_valueSource ?_
  obtain ⟨shape, packing, width, height, layers, packRatio⟩ := l
  cases packing <;> rfl

/-- Finding texels folds in the extents that their places depend on. -/
theorem numbersOf_getTexturePos (hl : t.get key = .ok l) :
    addressing.numbersOf t ⟨"getTexturePos", some key⟩ =
      .ok ((texelExtents l.packing l.shape).map .nat) := by
  refine numbersOf_eq rfl (layoutOf_of_get _ hl) parse_texelSource ?_
  obtain ⟨shape, packing, width, height, layers, packRatio⟩ := l
  cases packing <;> rfl

theorem numbersOf_getOutputTensorPos (t : LayoutTable) :
    addressing.numbersOf t ⟨"getOutputTensorPos", none⟩ =
      .ok ((positionExtents t.output.packing t.output.shape).map .nat) := by
  refine numbersOf_eq rfl rfl parse_outputPositionSource ?_
  obtain ⟨⟨shape, packing, width, height, layers, packRatio⟩, inputs⟩ := t
  cases packing <;> rfl

theorem numbersOf_formatNCHW (hl : t.get key = .ok l) :
    addressing.numbersOf t ⟨"formatNCHW", some key⟩ =
      .ok (l.limits.toList.map .int) := by
  have hlt := l.shape.dims_get_lt
  refine numbersOf_eq rfl (layoutOf_of_get _ hl) parse_clampSource ?_
  rw [clampTemplate, Template.pieces_text, Template.pieces_output rfl rfl, Template.pieces_text,
    Template.pieces_extentBound (n := l.packRatio.toNat) rfl l.packRatio.toNat_lt,
    Template.pieces_text, Template.pieces_extentBound (n := l.shape.dims.c) rfl (hlt .c),
    Template.pieces_text, Template.pieces_extentBound (n := l.shape.dims.h) rfl (hlt .h),
    Template.pieces_text, Template.pieces_extentBound (n := l.shape.dims.w) rfl (hlt .w),
    Template.pieces_text, Template.pieces]
  rfl

end Library

section Bodies

variable {ctx : BodyContext} {more : List (String × Template.Value)} {name : String} {q : Param}

/-- A parameter that is written as a literal is converted from the number that it is. -/
theorem converted?_floatExpr (h : ctx.params.find? name = some q) (line : Nat) :
    (floatExpr name line).converted? (ctx.value more) = q.asFloat? := by
  rw [floatExpr, Template.Expr.converted?, eval_paramExpr h]
  cases q <;> rfl

theorem pieces_floatExpr {x : Binary64} (h : ctx.params.find? name = some q)
    (hx : q.asFloat? = some x) (line : Nat) (rest : Template) :
    (Template.output (floatExpr name line) rest).pieces (ctx.value more) =
      (.number (.literal x) :: ·) <$> rest.pieces (ctx.value more) := by
  have hpiece : Piece.ofValue (ctx.value more) (floatExpr name line)
      (.string (Template.floatLiteral x)) = .number (.literal x) := by
    unfold Piece.ofValue
    rw [converted?_floatExpr h, hx]
  rw [Template.pieces_output (eval_floatExpr h hx line) rfl, hpiece]

theorem pieces_paramExpr {i : Int} (h : ctx.params.find? name = some (.int i)) (line : Nat)
    (rest : Template) :
    (Template.output (paramExpr name line) rest).pieces (ctx.value more) =
      (.number (.int i) :: ·) <$> rest.pieces (ctx.value more) := by
  rw [Template.pieces_output (eval_paramExpr h line) rfl]
  rfl

namespace Operator

theorem bodyPieces_eq_ok_iff (op : RuledOperator) {template : Template} {ps : List Piece}
    (hparse : Template.parse op.template = .ok template) :
    op.bodyPieces ctx = .ok ps ↔
      ∃ more, op.rule.additions op.descriptor.name ctx = .ok more ∧
        template.pieces (ctx.value more) = .ok ps := by
  rw [RuledOperator.bodyPieces, bind_eq_ok_iff]
  refine exists_congr fun more => and_congr_right fun _ => ?_
  rw [piecesNamed, hparse, mapError_eq_ok_iff]
  rfl

theorem numbers_elementwiseTemplate {axis : Int} {args : String} (a : Arithmetic)
    (haxis : ctx.params.find? "axis" = some (.int axis)) (hargs : ctx.broadcastArgs = some args) :
    Piece.numbers <$> elementwiseTemplate.pieces (ctx.value [("symbol", .string a.symbol)]) =
      .ok [.int axis] := by
  obtain ⟨operator, layouts, params, broadcastArgs⟩ := ctx
  obtain rfl : broadcastArgs = some args := hargs
  rw [elementwiseTemplate, Template.pieces_text, pieces_paramExpr haxis]
  rfl

theorem numbers_scaleTemplate {factor bias after : Param} {s b : Binary64}
    (hfactor : ctx.params.find? "scale" = some factor) (hs : factor.asFloat? = some s)
    (hbias : ctx.params.find? "bias" = some bias) (hb : bias.asFloat? = some b)
    (hafter : ctx.params.find? "bias_after_scale" = some after) :
    Piece.numbers <$> scaleTemplate.pieces (ctx.value []) = .ok [.literal s, .literal b] := by
  rw [scaleTemplate, Template.pieces_text,
    Template.pieces_choice (eval_paramExpr hafter 4) (truth_value after)]
  cases after.value.isTruthy <;>
  · simp only [cond_true, cond_false, Template.pieces_text, pieces_floatExpr hfactor hs,
      pieces_floatExpr hbias hb]
    rfl

theorem numbers_splitTemplate {offset : Int} (d : Axis)
    (hoffset : ctx.params.find? "offset" = some (.int offset)) :
    Piece.numbers <$> splitTemplate.pieces (ctx.value [("lane", .string d.lane)]) =
      .ok [.int offset] := by
  rw [splitTemplate, Template.pieces_text, Template.pieces_output rfl rfl, Template.pieces_text,
    pieces_paramExpr hoffset]
  rfl

end Operator

end Bodies

end TensorShader
