import TensorShader.Proofs.Kernel.Acceptance
import TensorShader.Proofs.Operator.Reads
import TensorShader.Proofs.Tensor.Broadcast

/-! Where the kernels of the operators that come with the library read their operands. For each
element of the output, the coordinates are those that the operator is about, and they lie inside
the operands, except that `scale` may be assembled for an operand that is smaller than the
output. -/

namespace TensorShader

open Library (addressing)
open Shader (callIn)

/-- The coordinates at which an operator reads its operands for the output element at `p`. -/
def RuledOperator.ReadsAt (op : RuledOperator) (params : Params) (shapes : OperandShapes) (p : Coord)
    (reads : List (String × Coord)) : Prop :=
  match op.rule with
  | .plain => reads = [("X", p)]
  | .elementwise _ => ∃ axis y, params.find? "axis" = some (.int axis) ∧
      shapes.get? "Y" = some y ∧ reads = [("X", p), ("Y", p.broadcast y (.ofParam axis))]
  | .split => ∃ axis, ∃ offset : Nat, params.find? "axis" = some (.int axis) ∧
      params.find? "offset" = some (.int offset) ∧
      reads = [("X", p.advance (.ofInt axis) offset)]

/-- Every read lies inside the shape of its operand. -/
def OperandShapes.Hold (shapes : OperandShapes) (reads : List (String × Coord)) : Prop :=
  ∀ r ∈ reads, ∃ s, shapes.get? r.1 = some s ∧ r.2.Inside s

/-- What a kernel is made of: layouts, the fragments that are rendered for them, and a body. -/
structure Assembler.Makes (a : Assembler) (op : Operator) (params : Params) (shapes : OperandShapes)
    (t : LayoutTable) (fs : List Fragment) (body : String) (k : Kernel) : Prop where
  layouts : a.layouts op.descriptor shapes = .ok t
  provided : a.library.Provides t op.descriptor.requests fs
  written : op.Writes t params body
  source : k.source = header a.config ++ paragraphs (fs.map (·.source) ++ [body])

theorem Library.Provides.unique {lib : Library} {t : LayoutTable}
    {requests : List Subroutine.Instance} {fs fs' : List Fragment}
    (h : lib.Provides t requests fs) (h' : lib.Provides t requests fs') : fs = fs' := by
  obtain ⟨p, hp, hrender⟩ := h
  obtain ⟨p', hp', hrender'⟩ := h'
  obtain rfl : p = p' := Except.ok.inj (hp.symm.trans hp')
  exact Except.ok.inj (hrender.symm.trans hrender')

theorem Slice.advance_inside {axis : Int} {offset : Nat} {input output : Shape}
    (h : Slice axis offset input output) {p : Coord} (hp : p.Inside output) :
    (p.advance (.ofInt axis) offset).Inside input := by
  intro d
  have hd := hp d
  rw [Coord.advance, Nchw.get_ofFn]
  split
  · rename_i heq
    subst heq
    have hstop := h.stop
    omega
  · rename_i hne
    rw [h.others d hne]
    exact hd

theorem Coord.last_inside {s : Shape} (hs : s.Nonempty) : Coord.Inside s.lastIndex s := by
  intro d
  have hpos := hs d
  rw [Shape.lastIndex, Nchw.get_map]
  omega

namespace Operator

variable {op : RuledOperator} {config : Config} {params : Params} {shapes : OperandShapes}
  {k : Kernel} {t : LayoutTable} {fs : List Fragment} {body : String}

theorem exists_makes {a : Assembler} {op : Operator} (h : a.assemble op params shapes = .ok k) :
    (∀ name ∈ op.descriptor.params, params.contains name = true) ∧
      ∃ t fs body, a.Makes op params shapes t fs body k := by
  obtain ⟨hparams, t, ht, fs, hfs, body, hbody, rfl⟩ := Assembler.assemble_eq_ok_iff.1 h
  exact ⟨Assembler.checkParams_eq_ok_iff.1 hparams, t, fs, body, ht, hfs, hbody, rfl⟩

/-- The body of a kernel reads the operands where its operator says. -/
theorem mainReads?_of_makes (hop : op ∈ builtins)
    (hparams : ∀ name ∈ op.descriptor.params, params.contains name = true)
    (h : (Assembler.ofConfig config).Makes op params shapes t fs body k) {p : Coord}
    (hp : p.Inside shapes.output) (further : List Int) :
    ∃ reads, op.ReadsAt params shapes p reads ∧
      Shader.mainReads? (callIn ((t.output.texel p).globals further) fs.reverse)
        op.descriptor.fetches ((t.output.texel p).globals further) body =
        some (reads.map fun r => (r.1, r.2.vector)) := by
  obtain ⟨x, hx, hshape, hout⟩ := origin_layout hop h.layouts
  have hcoord : t.output.coord (t.output.texel p) = p := LayoutRecord.coord_texel (hout ▸ hp)
  obtain ⟨-, -, hnonempty⟩ := Assembler.output_of_layouts h.layouts
  rcases mem_builtins hop with ⟨name, a, rfl⟩ | rfl | rfl
  · have hmem : ⟨"Y", "counter"⟩ ∈ (elementwise name a).descriptor.inputs := by simp [elementwise]
    obtain ⟨y, hyshape, -, hy⟩ := operand_layout hop h.layouts hmem
    obtain rfl := h.provided.unique (provides_elementwise name a hx hy)
    obtain ⟨axis, haxis, -, rfl⟩ := (writes_elementwise_iff hx).1 h.written
    refine ⟨[("X", p), ("Y", p.broadcast y.shape (.ofParam axis))],
      ⟨axis, y.shape, haxis, hyshape, rfl⟩, ?_⟩
    rw [mainReads?_elementwiseBody name axis (.ofParam axis) a
      ((callIn_counterFragments hnonempty x y).trans (by rw [hcoord]))
      (callIn_counterFragments_clamp t.output x y p), ← p.broadcast_eq_clamped]
    rfl
  · obtain ⟨factor, hfactor⟩ := find?_of_contains (hparams "scale" (by simp [scale]))
    obtain ⟨bias, hbias⟩ := find?_of_contains (hparams "bias" (by simp [scale]))
    obtain ⟨after, hafter⟩ := find?_of_contains (hparams "bias_after_scale" (by simp [scale]))
    obtain rfl := h.provided.unique (provides_scale hx)
    obtain ⟨s, b, -, -, rfl⟩ := (writes_scale_iff hfactor hbias hafter).1 h.written
    refine ⟨[("X", p)], rfl, ?_⟩
    exact mainReads?_scaleBody _ s b
      ((callIn_originFragments hnonempty x).trans (by rw [hcoord]))
  · obtain rfl := h.provided.unique (provides_split hx)
    obtain ⟨axis, offset, haxis, hoffset, hslice, rfl⟩ := (writes_split_iff hx).1 h.written
    obtain ⟨n, rfl⟩ := Int.eq_ofNat_of_zero_le hslice.start
    refine ⟨[("X", p.advance (.ofInt axis) n)], ⟨axis, n, haxis, hoffset, rfl⟩, ?_⟩
    exact mainReads?_splitBody (.ofInt axis) n
      ((callIn_originFragments hnonempty x).trans (by rw [hcoord]))

/-- The elementwise operators and `split` read inside their operands. -/
theorem hold_of_readsAt (hop : op ∈ builtins) (hrule : op.rule ≠ .plain)
    (h : (Assembler.ofConfig config).Makes op params shapes t fs body k) {p : Coord}
    (hp : p.Inside shapes.output) {reads : List (String × Coord)}
    (hreads : op.ReadsAt params shapes p reads) : shapes.Hold reads := by
  obtain ⟨x, hx, hshape, hout⟩ := origin_layout hop h.layouts
  rcases mem_builtins hop with ⟨name, a, rfl⟩ | rfl | rfl
  · have hmem : ⟨"Y", "counter"⟩ ∈ (elementwise name a).descriptor.inputs := by simp [elementwise]
    obtain ⟨l, hyshape, -, -⟩ := operand_layout hop h.layouts hmem
    obtain ⟨-, -, heq, -⟩ := (writes_elementwise_iff hx).1 h.written
    obtain ⟨axis, y, -, hy, rfl⟩ := hreads
    obtain rfl : l.shape = y := Option.some.inj (hyshape.symm.trans hy)
    intro r hr
    rcases List.mem_cons.1 hr with rfl | hr
    · exact ⟨x.shape, hshape, by rw [heq, hout]; exact hp⟩
    · obtain rfl := List.mem_singleton.1 hr
      exact ⟨l.shape, hy, p.broadcast_inside l.nonempty _⟩
  · exact absurd rfl hrule
  · obtain ⟨axis, offset, haxis, hoffset, hslice, -⟩ := (writes_split_iff hx).1 h.written
    obtain ⟨axis', offset', haxis', hoffset', rfl⟩ := hreads
    obtain rfl : axis = axis' := by simpa [haxis] using haxis'
    obtain rfl : offset = offset' := by simpa [hoffset] using hoffset'
    intro r hr
    obtain rfl := List.mem_singleton.1 hr
    exact ⟨x.shape, hshape, (hout ▸ hslice).advance_inside hp⟩

/-- For a kernel of an operator, the reads of its body for each output element are those of the
operator. They all lie inside the operands exactly if the operand of `scale`, which is not checked,
is at least as large as the output. -/
theorem reads_inside_iff (hop : op ∈ builtins)
    (h : (Assembler.ofConfig config).assemble op params shapes = .ok k) :
    ∃ t fs body, (Assembler.ofConfig config).Makes op params shapes t fs body k ∧
      (∀ p : Coord, p.Inside shapes.output → ∀ further,
        ∃ reads, op.ReadsAt params shapes p reads ∧
          Shader.mainReads? (callIn ((t.output.texel p).globals further) fs.reverse)
            op.descriptor.fetches ((t.output.texel p).globals further) body =
            some (reads.map fun r => (r.1, r.2.vector))) ∧
      ((∀ p : Coord, p.Inside shapes.output → ∀ reads, op.ReadsAt params shapes p reads →
        shapes.Hold reads) ↔
        (op.rule = .plain → ∃ x, shapes.get? "X" = some x ∧
          ∀ d, shapes.output.dims.get d ≤ x.dims.get d)) := by
  obtain ⟨hparams, t, fs, body, hmakes⟩ := exists_makes h
  obtain ⟨x, -, hshape, hout⟩ := origin_layout hop hmakes.layouts
  obtain ⟨-, -, hnonempty⟩ := Assembler.output_of_layouts hmakes.layouts
  refine ⟨t, fs, body, hmakes,
    fun p hp further => mainReads?_of_makes hop hparams hmakes hp further,
    fun hall hrule => ⟨x.shape, hshape, fun d => ?_⟩, fun hfits p hp reads hreads => ?_⟩
  · -- the last element of the output is read inside the operand
    have hlast : Coord.Inside shapes.output.lastIndex shapes.output :=
      Coord.last_inside (hout ▸ hnonempty)
    have hreads : op.ReadsAt params shapes shapes.output.lastIndex
        [("X", shapes.output.lastIndex)] := by
      unfold RuledOperator.ReadsAt
      rw [hrule]
    obtain ⟨s, hs, hinside⟩ := hall _ hlast _ hreads _ List.mem_cons_self
    obtain rfl : x.shape = s := Option.some.inj (hshape.symm.trans hs)
    have hd := hinside d
    rw [Shape.lastIndex, Nchw.get_map] at hd
    omega
  · by_cases hrule : op.rule = .plain
    · obtain ⟨s, hs, hle⟩ := hfits hrule
      unfold RuledOperator.ReadsAt at hreads
      rw [hrule] at hreads
      subst hreads
      intro r hr
      obtain rfl := List.mem_singleton.1 hr
      exact ⟨s, hs, fun d => Nat.lt_of_lt_of_le (hp d) (hle d)⟩
    · exact hold_of_readsAt hop hrule hmakes hp hreads

/-- Of the second half of the channels, the last element is read from the last channel. -/
theorem reads_inside_iff_half :
    split ∈ builtins ∧ ∃ k, (Assembler.ofConfig smallDevice).assemble split halfParams halfShapes =
      .ok k ∧ ∃ t fs body,
        (Assembler.ofConfig smallDevice).Makes split halfParams halfShapes t fs body k ∧
        Shader.mainReads? (callIn ((t.output.texel ⟨0, 1, 2, 4⟩).globals []) fs.reverse)
          split.descriptor.fetches ((t.output.texel ⟨0, 1, 2, 4⟩).globals []) body =
          some [("X", [0, 3, 2, 4])] := by
  have hop : split ∈ builtins := by simp [builtins]
  obtain ⟨k, hk⟩ := (exists_kernel_iff (a := .ofConfig smallDevice) hop .refl).2 accepts_half
  obtain ⟨t, fs, body, hmakes, hreads, -⟩ := reads_inside_iff hop hk
  obtain ⟨reads, ⟨axis, offset, haxis, hoffset, rfl⟩, hmain⟩ :=
    hreads ⟨0, 1, 2, 4⟩ (by decide) []
  have haxis : some (Param.int (-3)) = some (.int axis) := haxis
  have hoffset : some (Param.int 2) = some (.int offset) := hoffset
  obtain rfl : -3 = axis := Param.int.inj (Option.some.inj haxis)
  obtain rfl : 2 = offset := Int.ofNat.inj (Param.int.inj (Option.some.inj hoffset))
  exact ⟨hop, k, hk, t, fs, body, hmakes, hmain⟩

def unitParams : Params :=
  .ofList [("scale", .int 1), ("bias", .int 0), ("bias_after_scale", .bool false)]

/-- An output of 2 rows and columns for an operand of one element. -/
def grownShapes : OperandShapes := (OperandShapes.ofOutput ⟨⟨1, 1, 2, 2⟩⟩).input "X" ⟨⟨1, 1, 1, 1⟩⟩

/-- Not every kernel reads inside its operands: scaling one element to four is assembled, and the
last of the four is read outside the operand. -/
theorem exists_read_outside :
    ∃ k t fs body, (Assembler.ofConfig {}).assemble scale unitParams grownShapes = .ok k ∧
      (Assembler.ofConfig {}).Makes scale unitParams grownShapes t fs body k ∧
      Coord.Inside ⟨0, 0, 1, 1⟩ grownShapes.output ∧
      Shader.mainReads? (callIn ((t.output.texel ⟨0, 0, 1, 1⟩).globals []) fs.reverse)
        scale.descriptor.fetches ((t.output.texel ⟨0, 0, 1, 1⟩).globals []) body =
        some [("X", [0, 0, 1, 1])] ∧
      ¬grownShapes.Hold [("X", ⟨0, 0, 1, 1⟩)] := by
  have hop : scale ∈ builtins := by simp [builtins]
  have hkernel : ∃ k, (Assembler.ofConfig {}).assemble scale unitParams grownShapes = .ok k := by
    refine (exists_kernel_iff hop .refl).2
      ⟨by decide, ⟨⟨by decide, by decide, by decide, by decide, by decide⟩, ?_⟩, ?_⟩
    · intro o ho
      obtain rfl := List.mem_singleton.1 ho
      exact ⟨⟨⟨1, 1, 1, 1⟩⟩, by decide, by decide, by decide, by decide, by decide, by decide⟩
    · exact ⟨.int 1, .int 0, by decide, by decide, Param.isNumber_int 1, Param.isNumber_int 0⟩
  obtain ⟨k, hk⟩ := hkernel
  obtain ⟨hparams, t, fs, body, hmakes⟩ := exists_makes hk
  have hp : Coord.Inside ⟨0, 0, 1, 1⟩ grownShapes.output := by decide
  obtain ⟨reads, rfl, hmain⟩ := mainReads?_of_makes hop hparams hmakes hp []
  refine ⟨k, t, fs, body, hk, hmakes, hp, hmain, fun hold => ?_⟩
  obtain ⟨s, hs, hinside⟩ := hold _ List.mem_cons_self
  have hs : some ⟨⟨1, 1, 1, 1⟩⟩ = some s := hs
  obtain rfl := Option.some.inj hs
  revert hinside
  decide

end Operator

end TensorShader
