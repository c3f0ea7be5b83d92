import TensorShader.Kernel.Assembler
import TensorShader.Proofs.Template.Pieces

/-! The pieces of kernels. The fragments and the body of a kernel are written by templates, so its
source is made up of their pieces, with a header and empty lines. -/

namespace TensorShader

open Subroutine (Instance)
open Template (Folded Piece)

/-- The pieces of a template in a context, with its name in the error. -/
def piecesNamed (name source : String) (ctx : Template.Value) : Except Error (List Piece) :=
  (Template.parse source >>= (·.pieces ctx)).mapError fun f => .unrenderable name (.template f)

theorem renderNamed_eq (name source : String) (ctx : Template.Value) :
    renderNamed name source ctx = Piece.join <$> piecesNamed name source ctx := by
  rw [renderNamed, piecesNamed, Template.render]
  cases Template.parse source with
  | error f => rfl
  | ok template =>
    simp only [bind, Except.bind, template.fill_eq]
    cases template.pieces ctx <;> rfl

namespace Library

/-- The pieces of the source of an instance. -/
def fragmentPieces (lib : Library) (t : LayoutTable) (i : Instance) :
    Except Error (List Piece) := do
  let s ← lib.lookup i
  let l ← t.layoutOf i
  piecesNamed i.ident s.template (i.context l t.output)

theorem source_fragment (lib : Library) (t : LayoutTable) (i : Instance) :
    Fragment.source <$> lib.fragment t i = Piece.join <$> lib.fragmentPieces t i := by
  rw [fragment, fragmentPieces]
  cases lib.lookup i with
  | error e => rfl
  | ok s =>
    cases t.layoutOf i with
    | error e => rfl
    | ok l =>
      simp only [bind, Except.bind, renderNamed_eq]
      cases piecesNamed i.ident s.template (i.context l t.output) <;> rfl

theorem sources_render (lib : Library) (p : Plan) (t : LayoutTable) :
    List.map Fragment.source <$> lib.render p t =
      List.map Piece.join <$> p.instances.mapM (lib.fragmentPieces t) := by
  rw [render, map_mapM, map_mapM]
  exact mapM_congr fun i _ => lib.source_fragment t i

end Library

/-- The pieces of the body of an operator. -/
def RuledOperator.bodyPieces (op : RuledOperator) (ctx : BodyContext) :
    Except Error (List Piece) := do
  let more ← op.rule.additions op.descriptor.name ctx
  piecesNamed op.descriptor.name op.template (ctx.value more)

theorem RuledOperator.join_bodyPieces (op : RuledOperator) (ctx : BodyContext) :
    op.renderBody ctx = Piece.join <$> op.bodyPieces ctx := by
  rw [op.renderBody_eq, BodyRule.render, bodyPieces]
  cases op.rule.additions op.descriptor.name ctx with
  | error e => rfl
  | ok more => exact renderNamed_eq _ _ _

namespace Assembler

/-- The pieces of sources, each after an empty line and with a line feed at its end. -/
def paragraphPieces : List (List Piece) → List Piece
  | [] => []
  | ps :: rest => .text "\n" :: (ps ++ .text "\n" :: paragraphPieces rest)

theorem join_paragraphPieces (pss : List (List Piece)) :
    Piece.join (paragraphPieces pss) = paragraphs (pss.map Piece.join) := by
  induction pss with
  | nil => rfl
  | cons ps pss ih =>
    simp [paragraphPieces, paragraphs, Piece.join, Piece.source, Piece.join_append, ih,
      String.append_assoc]

theorem numbers_paragraphPieces (pss : List (List Piece)) :
    Piece.numbers (paragraphPieces pss) = (pss.map Piece.numbers).flatten := by
  induction pss with
  | nil => rfl
  | cons ps pss ih => simp [paragraphPieces, Piece.numbers, Piece.numbers_append, ih]

/-- The pieces of the source of a kernel. -/
def pieces (a : Assembler) (op : RuledOperator) (params : Params) (shapes : OperandShapes) :
    Except Error (List Piece) := do
  checkParams op.descriptor params
  let t ← a.layouts op.descriptor shapes
  let p ← a.library.resolve op.descriptor.requests
  let fragments ← p.instances.mapM (a.library.fragmentPieces t)
  let body ← op.bodyPieces (← BodyContext.of op.descriptor t params)
  return .text (header a.config) :: paragraphPieces (fragments ++ [body])

/-- The pieces of a kernel make up its source. -/
theorem source_assemble (a : Assembler) (op : RuledOperator) (params : Params)
    (shapes : OperandShapes) :
    Kernel.source <$> a.assemble op params shapes = Piece.join <$> a.pieces op params shapes := by
  rw [assemble, pieces]
  -- a stage that fails is the same on both sides, so each one can be taken off
  cases checkParams op.descriptor params with
  | error e => rfl
  | ok u =>
  simp only [bind, Except.bind]
  cases a.layouts op.descriptor shapes with
  | error e => rfl
  | ok t =>
  simp only
  cases a.library.resolve op.descriptor.requests with
  | error e => rfl
  | ok p =>
  simp only
  have hsources := a.library.sources_render p t
  cases hpieces : p.instances.mapM (a.library.fragmentPieces t) with
  | error e =>
    rw [hpieces] at hsources
    rw [map_eq_error_iff.1 hsources]
    rfl
  | ok pss =>
  rw [hpieces] at hsources
  obtain ⟨fs, hfs, hmap⟩ := map_eq_ok_iff.1 hsources
  rw [hfs]
  simp only
  cases BodyContext.of op.descriptor t params with
  | error e => rfl
  | ok ctx =>
  simp only [op.join_bodyPieces]
  cases op.bodyPieces ctx with
  | error e => rfl
  | ok body =>
  refine congrArg Except.ok ?_
  rw [Piece.join, join_paragraphPieces, List.map_append, ← hmap]
  rfl

end Assembler

end TensorShader
