import TensorShader.Proofs.Kernel.Reads

/-! The layouts that a kernel addresses its operands with. They are kept under bindings, so operands
that share a binding share the layout of the last of them. A kernel addresses every operand with the
layout of its own shape exactly if operands that share a binding are given the same shape. -/

namespace TensorShader

open Assembler (lastBound?)
open Library (addressing texelFragment)

/-- The layout of an operand's own shape. -/
def OperandShapes.HasLayout (shapes : OperandShapes) (packing : Packing) (o : Operand)
    (l : Layout) : Prop :=
  ∃ s, shapes.get? o.name = some s ∧ Layout.of s packing = .ok l

/-- A fragment is what the template of its subroutine writes for a layout. -/
def Library.RendersFor (lib : Library) (output l : LayoutRecord) (f : Fragment) : Prop :=
  ∃ s, lib.lookup f.inst = .ok s ∧
    renderNamed f.ident s.template (f.inst.context l output) = .ok f.source

/-- The fragments under a binding are rendered for a layout, and the body finds that layout under
the binding. -/
structure Library.Addresses (lib : Library) (ctx : BodyContext) (fs : List Fragment) (key : String)
    (l : LayoutRecord) : Prop where
  fragments : ∀ f ∈ fs, f.inst.binding = some key → lib.RendersFor ctx.layouts.output l f
  entry : ctx.layouts.get key = .ok l

theorem OperandShapes.HasLayout.get?_eq {shapes : OperandShapes} {packing : Packing}
    {o : Operand} {l : Layout} (h : shapes.HasLayout packing o l) :
    shapes.get? o.name = some l.shape := by
  obtain ⟨s, hs, hl⟩ := h
  obtain ⟨rfl, -⟩ := Layout.of_eq_ok_iff.1 hl
  exact hs

theorem Library.rendersFor_iff {lib : Library} {t : LayoutTable} {l : LayoutRecord} {f : Fragment}
    (hl : t.layoutOf f.inst = .ok l) :
    lib.RendersFor t.output l f ↔ lib.fragment t f.inst = .ok f := by
  rw [Library.fragment_eq_ok_iff]
  constructor
  · rintro ⟨s, hs, hsource⟩
    exact ⟨rfl, s, l, hs, hl, hsource⟩
  · rintro ⟨-, s, m, hs, hm, hsource⟩
    obtain rfl : l = m := Except.ok.inj (hl.symm.trans hm)
    exact ⟨s, hs, hsource⟩

theorem Library.Provides.addresses {lib : Library} {ctx : BodyContext}
    {requests : List Subroutine.Instance} {fs : List Fragment} {key : String} {l : LayoutRecord}
    (h : lib.Provides ctx.layouts requests fs) (hl : ctx.layouts.get key = .ok l) :
    lib.Addresses ctx fs key l := by
  obtain ⟨p, -, hrender⟩ := h
  refine ⟨fun f hf hkey => ?_, hl⟩
  obtain ⟨i, -, hi⟩ := exists_of_mem_mapM hrender hf
  obtain ⟨rfl, -⟩ := Library.fragment_eq_ok_iff.1 hi
  have hlayout : ctx.layouts.layoutOf f.inst = .ok l := by
    rw [LayoutTable.layoutOf, hkey]
    exact hl
  exact (Library.rendersFor_iff hlayout).2 hi

/-- A fragment that finds texels is written for layouts only in which elements have the same
texels. -/
theorem Library.texelFunction_eq_of_rendersFor {key : String} {out l l' : LayoutRecord}
    (h : addressing.RendersFor out l (texelFragment key l')) :
    texelFunction l.packing l.shape = texelFunction l'.packing l'.shape := by
  have hl : ((LayoutTable.ofOutput out).bind key l).layoutOf (texelFragment key l').inst = .ok l :=
    LayoutTable.layoutOf_bind _ _ _ l
  have hfragment := ((rendersFor_iff hl).1 h).symm.trans (fragment_getTexturePos hl)
  have heq : texelFragment key l' = texelFragment key l := Except.ok.inj hfragment
  have hread (m : LayoutRecord) : Shader.Function.read? (texelFragment key m).ident
      (texelFragment key m).source = some (texelFunction m.packing m.shape) :=
    read?_texelText key m
  have hfunction := hread l
  rw [← heq, hread l'] at hfunction
  exact (Option.some.inj hfunction).symm

namespace Operator

variable {op : Operator} {a : Assembler} {params : Params} {shapes : OperandShapes} {k : Kernel}

theorem exists_hasLayout_last {t : LayoutTable} {o : Operand}
    (h : a.layouts op.descriptor shapes = .ok t) (ho : o ∈ op.descriptor.inputs) :
    ∃ last ∈ op.descriptor.inputs, lastBound? o.binding op.descriptor.inputs = some last ∧
      last.binding = o.binding ∧ ∃ l : Layout, shapes.HasLayout a.config.packing last l ∧
        t.get o.binding = .ok l := by
  obtain ⟨last, hmem, hlast, hbinding⟩ := Assembler.exists_lastBound? ho
  obtain ⟨s, l, hs, hl, hget⟩ := (Assembler.layouts_get h).2 o.binding last hlast
  obtain ⟨hshape, hpacking, -, -⟩ := Assembler.layout_eq_ok_iff.1 hl
  exact ⟨last, hmem, hlast, hbinding, l, ⟨s, hs, Layout.of_eq_ok_iff.2 ⟨hshape, hpacking⟩⟩, hget⟩

/-- Under the binding of an operand, a kernel uses the layout of the last operand with that binding.
This is the layout of the operand's own shape, for all operands, exactly if operands that share a
binding have the same shape. -/
theorem operands_addressed_iff (h : a.assemble op params shapes = .ok k) :
    ∃ t fs ctx body, a.Makes op params shapes t fs body k ∧
      BodyContext.of op.descriptor t params = .ok ctx ∧ op.renderBody ctx = .ok body ∧
      (∀ o ∈ op.descriptor.inputs, ∃ last, ∃ l : Layout,
        lastBound? o.binding op.descriptor.inputs = some last ∧
          shapes.HasLayout a.config.packing last l ∧ a.library.Addresses ctx fs o.binding l) ∧
      ((∀ o ∈ op.descriptor.inputs, ∃ l : Layout, shapes.HasLayout a.config.packing o l ∧
          a.library.Addresses ctx fs o.binding l) ↔
        ∀ o ∈ op.descriptor.inputs, ∀ o' ∈ op.descriptor.inputs, o.binding = o'.binding →
          shapes.get? o.name = shapes.get? o'.name) := by
  obtain ⟨-, t, fs, body, hmakes⟩ := exists_makes h
  obtain ⟨ctx, hctx, hbody⟩ := hmakes.written
  obtain ⟨rfl, -⟩ := BodyContext.of_eq_ok hctx
  refine ⟨ctx.layouts, fs, ctx, body, hmakes, hctx, hbody, fun o ho => ?_,
    fun hown o ho o' ho' hbinding => ?_, fun hagree o ho => ?_⟩
  · obtain ⟨last, -, hlast, -, l, hl, hget⟩ := exists_hasLayout_last hmakes.layouts ho
    exact ⟨last, l, hlast, hl, hmakes.provided.addresses hget⟩
  · obtain ⟨l, hl, haddresses⟩ := hown o ho
    obtain ⟨l', hl', haddresses'⟩ := hown o' ho'
    have hentry' := haddresses'.entry
    rw [← hbinding] at hentry'
    have hsame : l.toLayoutRecord = l' := Except.ok.inj (haddresses.entry.symm.trans hentry')
    rw [hl.get?_eq, hl'.get?_eq, hsame]
  · obtain ⟨last, hmem, -, hbinding, l, ⟨s, hs, hl⟩, hget⟩ :=
      exists_hasLayout_last hmakes.layouts ho
    exact ⟨l, ⟨s, (hagree o ho last hmem hbinding.symm).trans hs, hl⟩,
      hmakes.provided.addresses hget⟩

/-- An operator whose operands share a binding, and which looks up a texel under it. -/
def paired : Operator where
  descriptor :=
    { name := "paired"
      inputs := [⟨"A", "origin"⟩, ⟨"B", "origin"⟩]
      params := []
      deps := [⟨"getTexturePos", some "origin"⟩]
      bindingDeps := []
      broadcasts := false }
  template := lines [
    "void main() \x7b",
    "    ivec3 pos = getTexturePos_origin(1, 0, 0, 0);",
    "\x7d"]

def pairedBody : String :=
  "void main() \x7b\n    ivec3 pos = getTexturePos_origin(1, 0, 0, 0);\n\x7d"

theorem writes_paired (t : LayoutTable) (params : Params) :
    paired.Writes t params pairedBody := by
  have hparse : Template.parse paired.template = .ok (.text pairedBody .done) := by
    rw [paired, Template.parse_lines]
    simp only [List.map_cons, List.map_nil, String.reduceToList]
    decide +kernel
  have hrender := renderNamed_of_parse hparse "paired"
    ((⟨"paired", t, params, none⟩ : BodyContext).value [])
  exact ⟨⟨"paired", t, params, none⟩, rfl, hrender.trans rfl⟩

theorem provides_paired {t : LayoutTable} {l : LayoutRecord} (hl : t.get "origin" = .ok l) :
    addressing.Provides t paired.descriptor.requests [texelFragment "origin" l] := by
  refine ⟨⟨[⟨"getTexturePos", some "origin"⟩]⟩, rfl, ?_⟩
  simp only [Library.render, List.mapM_cons, List.mapM_nil,
    Library.fragment_getTexturePos (Library.layoutOf_of_get _ hl)]
  rfl

/-- Two batches of 3 rows and 5 columns for the first operand of `paired`. -/
def pairedShapes (second : Shape) : OperandShapes :=
  ((OperandShapes.ofOutput ⟨⟨1, 1, 1, 1⟩⟩).input "A" ⟨⟨2, 1, 3, 5⟩⟩).input "B" second

/-- The kernel of `paired` is made for the layout of the second operand. -/
theorem makes_paired {second : Shape} (h : Config.Admits {} second) :
    ∃ k t, ∃ l : Layout, (Assembler.ofConfig {}).assemble paired .empty (pairedShapes second) = .ok k ∧
      l.shape = second ∧ l.packing = .plain ∧ t.get "origin" = .ok l ∧
      (Assembler.ofConfig {}).Makes paired .empty (pairedShapes second) t
        [texelFragment "origin" l] pairedBody k := by
  have hunit : Config.Admits {} ⟨⟨1, 1, 1, 1⟩⟩ :=
    ⟨by decide, by decide, by decide, by decide, by decide⟩
  have hfirst : Config.Admits {} ⟨⟨2, 1, 3, 5⟩⟩ :=
    ⟨by decide, by decide, by decide, by decide, by decide⟩
  obtain ⟨t, ht⟩ : ∃ t, (Assembler.ofConfig {}).layouts paired.descriptor (pairedShapes second) =
      .ok t := by
    refine Assembler.exists_layouts_iff.2 ⟨hunit, fun o ho => ?_⟩
    simp only [paired, List.mem_cons, List.not_mem_nil, or_false] at ho
    rcases ho with rfl | rfl
    · exact ⟨_, rfl, hfirst⟩
    · exact ⟨_, rfl, h⟩
  obtain ⟨s, l, hs, hl, hget⟩ := (Assembler.layouts_get ht).2 "origin" ⟨"B", "origin"⟩ rfl
  obtain rfl : second = s := Option.some.inj hs
  obtain ⟨hshape, hpacking, -, -⟩ := Assembler.layout_eq_ok_iff.1 hl
  have hmakes : (Assembler.ofConfig {}).Makes paired .empty (pairedShapes second) t
      [texelFragment "origin" l] pairedBody ((Assembler.ofConfig {}).kernel paired.descriptor t
        [texelFragment "origin" l] pairedBody) :=
    ⟨ht, provides_paired hget, writes_paired t .empty, rfl⟩
  have hassemble := Assembler.assemble_eq_ok_iff.2
    ⟨rfl, t, ht, _, hmakes.provided, _, hmakes.written, rfl⟩
  exact ⟨_, t, l, hassemble, hshape, hpacking, hget, hmakes⟩

/-- Two operands of one shape are both addressed with the layout of that shape. -/
theorem operands_addressed_iff_paired :
    ∃ k, (Assembler.ofConfig {}).assemble paired .empty (pairedShapes ⟨⟨2, 1, 3, 5⟩⟩) = .ok k ∧
      ∃ t fs ctx body,
        (Assembler.ofConfig {}).Makes paired .empty (pairedShapes ⟨⟨2, 1, 3, 5⟩⟩) t fs body k ∧
        ∀ o ∈ paired.descriptor.inputs, ∃ l : Layout,
          (pairedShapes ⟨⟨2, 1, 3, 5⟩⟩).HasLayout .plain o l ∧
            addressing.Addresses ctx fs o.binding l := by
  have hsecond : Config.Admits {} ⟨⟨2, 1, 3, 5⟩⟩ :=
    ⟨by decide, by decide, by decide, by decide, by decide⟩
  obtain ⟨k, -, -, hk, -⟩ := makes_paired hsecond
  obtain ⟨t, fs, ctx, body, hmakes, -, -, -, hown⟩ := operands_addressed_iff hk
  exact ⟨k, hk, t, fs, ctx, body, hmakes, hown.2 (by decide)⟩

/-- Not every operand is addressed with its own layout: if the second operand has 4 rows, the texels
of the first are looked up with batches of 4 rows instead of 3. -/
theorem exists_operand_addressed_otherwise :
    ∃ k t fs ctx body, ∃ l : Layout, ∃ f,
      (Assembler.ofConfig {}).assemble paired .empty (pairedShapes ⟨⟨2, 1, 4, 5⟩⟩) = .ok k ∧
      (Assembler.ofConfig {}).Makes paired .empty (pairedShapes ⟨⟨2, 1, 4, 5⟩⟩) t fs body k ∧
      BodyContext.of paired.descriptor t .empty = .ok ctx ∧ paired.renderBody ctx = .ok body ∧
      ⟨"A", "origin"⟩ ∈ paired.descriptor.inputs ∧
      (pairedShapes ⟨⟨2, 1, 4, 5⟩⟩).HasLayout .plain ⟨"A", "origin"⟩ l ∧
      ctx.layouts.get "origin" ≠ .ok l ∧
      f ∈ fs ∧ f.inst.binding = some "origin" ∧
      ¬addressing.RendersFor ctx.layouts.output l f := by
  have hsecond : Config.Admits {} ⟨⟨2, 1, 4, 5⟩⟩ :=
    ⟨by decide, by decide, by decide, by decide, by decide⟩
  obtain ⟨k, t, l', hk, hshape', hpacking', hget, hmakes⟩ := makes_paired hsecond
  obtain ⟨ctx, hctx, hbody⟩ := hmakes.written
  obtain ⟨rfl, -⟩ := BodyContext.of_eq_ok hctx
  let l : Layout := .ofFits ⟨⟨2, 1, 3, 5⟩⟩ .plain (by decide) (by decide) (by decide)
  refine ⟨k, ctx.layouts, _, ctx, _, l, texelFragment "origin" l', hk, hmakes, hctx, hbody,
    by decide, ⟨_, rfl, Layout.of_eq_ok_iff.2 ⟨rfl, rfl⟩⟩, fun hentry => ?_,
    List.mem_singleton_self _, rfl, ?_⟩
  · have hsame : l'.toLayoutRecord = l := Except.ok.inj (hget.symm.trans hentry)
    rw [hsame] at hshape'
    exact absurd hshape' (by decide)
  · intro hrenders
    have htexel := Library.texelFunction_eq_of_rendersFor hrenders
    rw [hshape', hpacking'] at htexel
    revert htexel
    decide

end Operator

end TensorShader
