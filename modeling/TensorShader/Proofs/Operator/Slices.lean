import TensorShader.Proofs.Kernel.Layouts
import TensorShader.Proofs.Operator.Acceptance
import TensorShader.Proofs.Operator.Reads
import TensorShader.Proofs.Texture.Texel
import Mathlib.Algebra.GroupWithZero.Nat

/-! The slices of an operand. Slices that follow each other on an axis, from its start to its end,
are all accepted, and together they read every element of the operand once. A slice that leaves the
operand, or differs from it on another axis, is refused. -/

namespace TensorShader

theorem Nchw.vector_inj {p q : Nchw Nat} : p.vector = q.vector ↔ p = q := by
  rw [← toList_inj]
  exact List.map_inj_right fun _ _ => Int.ofNat.inj

/-- The shape with another extent on an axis. -/
def Shape.withExtent (s : Shape) (d : Axis) (n : Nat) : Shape :=
  ⟨.ofFn fun e => if e = d then .ofNat n else s.toNchw.get e⟩

theorem Shape.dims_withExtent (s : Shape) (d : Axis) {n : Nat} (hn : n < wordBound) (e : Axis) :
    (s.withExtent d n).dims.get e = if e = d then n else s.dims.get e := by
  rw [dims, Nchw.get_map, withExtent, Nchw.get_ofFn]
  split
  · exact UInt32.toNat_ofNat_of_lt hn
  · rw [dims, Nchw.get_map]

/-- What is not larger than a tensor with a layout has a layout. -/
theorem Layout.exists_of_le (x : Layout) {s : Shape} (hs : s.Nonempty)
    (hle : ∀ d, s.dims.get d ≤ x.shape.dims.get d) : ∃ l, Layout.of s x.packing = .ok l := by
  have hheight : s.dims.h * s.dims.n < wordBound :=
    Nat.lt_of_le_of_lt (Nat.mul_le_mul (hle .h) (hle .n)) x.height_lt
  have hwidth : x.packing.width s ≤ x.packing.width x.shape := by
    cases x.packing with
    | plain => exact hle .w
    | channelMajor => exact Nat.mul_le_mul (hle .w) (hle .c)
  exact ⟨.ofFits s x.packing hs hheight (Nat.lt_of_le_of_lt hwidth x.width_lt),
    of_eq_ok_iff.2 ⟨rfl, rfl⟩⟩

/-- The coordinate with another index on an axis. -/
def Coord.withIndex (p : Coord) (d : Axis) (i : Nat) : Coord :=
  Nchw.ofFn fun e => if e = d then i else p.get e

/-- A coordinate is another one further on exactly if it lies further on along the axis and is equal
to it on the others. -/
theorem Coord.advance_eq_iff {p q : Coord} {d : Axis} {n : Nat} :
    p.advance d n = q ↔ n + p.get d = q.get d ∧ p = q.withIndex d (p.get d) := by
  constructor
  · rintro rfl
    refine ⟨by simp [advance, Nat.add_comm], Nchw.ext_get fun e => ?_⟩
    by_cases he : e = d <;> simp [advance, withIndex, he]
  · rintro ⟨hd, hp⟩
    refine Nchw.ext_get fun e => ?_
    by_cases he : e = d
    · subst he
      simp [advance, ← hd, Nat.add_comm]
    · have hpe : p.get e = q.get e := by simpa [withIndex, he] using congrArg (·.get e) hp
      simp [advance, he, hpe]

/-- A number below the sum of lengths has one place in the intervals of these lengths, one after the
other: an interval, and a number below its length. -/
theorem existsUnique_place {lengths : List Nat} {v : Nat} (h : v < lengths.sum) :
    ∃! r : Nat × Nat, ∃ n, lengths[r.1]? = some n ∧ r.2 < n ∧ (lengths.take r.1).sum + r.2 = v := by
  induction lengths generalizing v with
  | nil => simp at h
  | cons n rest ih =>
    rw [List.sum_cons] at h
    by_cases hv : v < n
    · refine ⟨(0, v), ⟨n, rfl, hv, by simp⟩, ?_⟩
      rintro ⟨i, w⟩ ⟨m, hi, hw, hsum⟩
      cases i with
      | zero => simpa using hsum
      | succ i =>
        simp only [List.take_succ_cons, List.sum_cons] at hsum
        omega
    · obtain ⟨⟨i, w⟩, ⟨m, hi, hw, hsum⟩, hunique⟩ := ih (v := v - n) (by omega)
      refine ⟨(i + 1, w), ⟨m, hi, hw, ?_⟩, ?_⟩
      · simp only [List.take_succ_cons, List.sum_cons] at hsum ⊢
        omega
      rintro ⟨j, w'⟩ ⟨m', hj, hw', hsum'⟩
      cases j with
      | zero =>
        obtain rfl : n = m' := Option.some.inj hj
        simp at hsum' hw'
        omega
      | succ j =>
        simp only [List.take_succ_cons, List.sum_cons] at hsum'
        have hplace : (rest.take j).sum + w' = v - n := by omega
        simpa using hunique (j, w') ⟨m', hj, hw', hplace⟩

/-- The context asks for a slice of an operand of a layout: the output has the given shape, and the
slice starts at an offset on an axis. -/
structure BodyContext.AsksSlice (ctx : BodyContext) (x : LayoutRecord) (output : Shape)
    (axis offset : Int) : Prop where
  operand : ctx.layouts.get Operator.originKey = .ok x
  output : ctx.layouts.output.shape = output
  axis : ctx.params.find? "axis" = some (.int axis)
  offset : ctx.params.find? "offset" = some (.int offset)

namespace Operator

variable {ctx : BodyContext} {x : LayoutRecord} {output : Shape} {axis offset : Int} {extents : List Nat}
  {operator : String}

/-- For the output element at `p`, the body of a slice reads its operand at `q`, and nothing else. -/
def ReadsFor (body : String) (p q : Coord) : Prop :=
  ∀ calls globals, calls outputPosition.ident [] = some p.vector →
    Shader.mainReads? calls split.descriptor.fetches globals body = some [("X", q.vector)]

theorem readsFor_splitBody_iff {d : Axis} {n : Nat} {p q : Coord} :
    ReadsFor (splitBody d n) p q ↔ p.advance d n = q := by
  constructor
  · intro h
    have hreads := h (fun _ _ => some p.vector) [] rfl
    rw [mainReads?_splitBody d n rfl] at hreads
    simpa [Nchw.vector_inj] using hreads
  · rintro rfl calls globals hposition
    exact mainReads?_splitBody d n hposition

/-- The bodies of slices with the given extents on an axis, which start where the slice before them
ends, in the order of the slices. Each of them is written, for an output with a layout, and reads
further on along the axis by the extents before it, so that each element of the operand is read by
one of them for one element of its output. -/
structure Tiles (x : Layout) (axis : Int) (extents : List Nat) (bodies : Nat → String) : Prop where
  written : ∀ i n, extents[i]? = some n →
    (∃ out, Layout.of (x.shape.withExtent (.ofInt axis) n) x.packing = .ok out) ∧
      ∀ ctx : BodyContext, ctx.AsksSlice x (x.shape.withExtent (.ofInt axis) n) axis
        (extents.take i).sum → split.renderBody ctx = .ok (bodies i)
  advanced : ∀ i n, extents[i]? = some n → ∀ p q : Coord,
    ReadsFor (bodies i) p q ↔ p.advance (.ofInt axis) (extents.take i).sum = q
  read : ∀ q : Coord, q.Inside x.shape → ∃! r : Nat × Coord, ∃ n, extents[r.1]? = some n ∧
    r.2.Inside (x.shape.withExtent (.ofInt axis) n) ∧ ReadsFor (bodies r.1) r.2 q

theorem take_sum_add_le {i n : Nat} (hi : extents[i]? = some n) :
    (extents.take i).sum + n ≤ extents.sum := by
  have hsplit : (extents.take (i + 1)).sum = (extents.take i).sum + n := by
    rw [List.take_add_one, hi, List.sum_append]
    simp
  have hall := congrArg List.sum (List.take_append_drop (i + 1) extents)
  rw [List.sum_append] at hall
  omega

theorem extent_lt (hsum : extents.sum = x.shape.dims.get (.ofInt axis)) {i n : Nat}
    (hi : extents[i]? = some n) : n < wordBound := by
  have hle := take_sum_add_le hi
  have hlt := x.shape.dims_get_lt (.ofInt axis)
  omega

theorem slice_of_extents (hleast : -4 ≤ axis) (hgreatest : axis < 4)
    (hsum : extents.sum = x.shape.dims.get (.ofInt axis)) {i n : Nat} (hi : extents[i]? = some n) :
    Slice axis (extents.take i).sum x.shape (x.shape.withExtent (.ofInt axis) n) := by
  have hle := take_sum_add_le hi
  have hdims := x.shape.dims_withExtent (.ofInt axis) (extent_lt (x := x) hsum hi)
  refine ⟨hleast, hgreatest, Int.natCast_nonneg _, fun d hd => ?_, ?_⟩
  · rw [hdims, if_neg hd]
  · rw [hdims, if_pos rfl]
    omega

/-- The body of a slice is written with the slice's axis and offset. -/
theorem renderBody_of_slice (h : ctx.AsksSlice x output axis offset)
    (hslice : Slice axis offset x.shape output) :
    split.renderBody ctx = .ok (splitBody (.ofInt axis) offset) :=
  (renderBody_split_eq_ok_iff h.operand).2
    ⟨axis, offset, h.axis, h.offset, h.output ▸ hslice, rfl⟩

/-- Slices that follow each other read every element of the operand once. -/
theorem tiles_of_sum {x : Layout} (hleast : -4 ≤ axis) (hgreatest : axis < 4)
    (hpos : ∀ n ∈ extents, 0 < n) (hsum : extents.sum = x.shape.dims.get (.ofInt axis)) :
    Tiles x axis extents fun i => splitBody (.ofInt axis) (extents.take i).sum := by
  have hslice {i n : Nat} (hi : extents[i]? = some n) :=
    slice_of_extents (x := x) hleast hgreatest hsum hi
  have hdims {i n : Nat} (hi : extents[i]? = some n) :=
    x.shape.dims_withExtent (.ofInt axis) (extent_lt (x := x) hsum hi)
  refine ⟨fun i n hi => ⟨?_, fun ctx h => renderBody_of_slice h (hslice hi)⟩,
    fun _ _ _ _ _ => readsFor_splitBody_iff, fun q hq => ?_⟩
  · -- a slice is not empty and not larger than the operand, so it has a layout
    refine x.exists_of_le (fun d => ?_) fun d => ?_
    · rw [hdims hi]
      split
      · exact hpos n (List.mem_of_getElem? hi)
      · exact x.nonempty d
    · rw [hdims hi]
      split
      · rename_i hd
        subst hd
        rw [← hsum]
        exact Nat.le_trans (Nat.le_add_left _ _) (take_sum_add_le hi)
      · exact Nat.le_refl _
  · -- the place of the index on the axis names the slice and the index in it
    have hindex : q.get (.ofInt axis) < extents.sum := hsum ▸ hq (.ofInt axis)
    obtain ⟨⟨i, w⟩, ⟨n, hi, hw, hplace⟩, hunique⟩ := existsUnique_place hindex
    refine ⟨(i, q.withIndex (.ofInt axis) w), ⟨n, hi, fun d => ?_, ?_⟩, ?_⟩
    · rw [hdims hi, Coord.withIndex, Nchw.get_ofFn]
      split
      · exact hw
      · exact hq d
    · refine readsFor_splitBody_iff.2 (Coord.advance_eq_iff.2 ?_)
      simpa [Coord.withIndex] using hplace
    · rintro ⟨j, p⟩ ⟨m, hj, hp, hreads⟩
      obtain ⟨hd, hothers⟩ := Coord.advance_eq_iff.1 (readsFor_splitBody_iff.1 hreads)
      have hbelow : p.get (.ofInt axis) < m := by simpa [hdims hj] using hp (.ofInt axis)
      have hsame := hunique (j, p.get (.ofInt axis)) ⟨m, hj, hbelow, hd⟩
      obtain ⟨rfl, rfl⟩ := Prod.mk.inj hsame
      exact congrArg (j, ·) hothers

/-- The axis of a slice is a dimension, and the output differs from the operand on another one. -/
def DiffersElsewhere (axis : Int) (input output : Shape) : Prop :=
  -4 ≤ axis ∧ axis < 4 ∧ ∃ d, d ≠ Axis.ofInt axis ∧ input.dims.get d ≠ output.dims.get d

/-- The checks of a slice, in their order. -/
theorem splitAxis_eq (h : ctx.AsksSlice x output axis offset) :
    splitAxis ctx operator =
      if axis < -4 ∨ 4 ≤ axis then .error (.unrenderable operator (.axisOutside axis))
      else if Axis.all.any fun d => d ≠ Axis.ofInt axis ∧ x.shape.dims.get d ≠ output.dims.get d then
        .error (.invalidShape ⟨output.dims.toList, .splitMismatch⟩)
      else if offset < 0 ∨ (x.shape.dims.get (.ofInt axis) : Int) <
          offset + output.dims.get (.ofInt axis) then
        .error (.unrenderable operator (.sliceOutside (output.dims.get (.ofInt axis)) offset
          (x.shape.dims.get (.ofInt axis)) (.ofInt axis)))
      else .ok (.ofInt axis) := by
  obtain ⟨hoperand, rfl, haxis, hoffset⟩ := h
  unfold splitAxis
  rw [Params.int_eq_ok_iff.2 haxis, Params.int_eq_ok_iff.2 hoffset, hoperand]
  rfl

theorem any_differs_iff {input : Shape} {d : Axis} :
    (Axis.all.any fun e => decide (e ≠ d ∧ input.dims.get e ≠ output.dims.get e)) = true ↔
      ∃ e, e ≠ d ∧ input.dims.get e ≠ output.dims.get e := by
  simp [Axis.mem_all]

theorem splitAxis_of_not_slice (operator : String) (h : ctx.AsksSlice x output axis offset)
    (hnot : ¬Slice axis offset x.shape output) :
    ∃ e, splitAxis ctx operator = .error e ∧
      ((DiffersElsewhere axis x.shape output ∧
          e = .invalidShape ⟨output.dims.toList, .splitMismatch⟩) ∨
        (¬DiffersElsewhere axis x.shape output ∧ ∃ fault, e = .unrenderable operator fault)) := by
  rw [splitAxis_eq h]
  by_cases hrange : axis < -4 ∨ 4 ≤ axis
  · rw [if_pos hrange]
    refine ⟨_, rfl, .inr ⟨?_, _, rfl⟩⟩
    rintro ⟨hleast, hgreatest, -⟩
    omega
  rw [if_neg hrange]
  by_cases hothers : ∃ d, d ≠ Axis.ofInt axis ∧ x.shape.dims.get d ≠ output.dims.get d
  · rw [if_pos (any_differs_iff.2 hothers)]
    exact ⟨_, rfl, .inl ⟨⟨by omega, by omega, hothers⟩, rfl⟩⟩
  rw [if_neg (mt any_differs_iff.1 hothers)]
  have hends : offset < 0 ∨ (x.shape.dims.get (.ofInt axis) : Int) <
      offset + output.dims.get (.ofInt axis) := by
    -- all else is right, so a slice that ended inside the operand would be one
    refine Classical.byContradiction fun hends => hnot ⟨by omega, by omega, by omega, ?_, by omega⟩
    exact fun d hd => Classical.byContradiction fun hne => hothers ⟨d, hd, hne⟩
  rw [if_pos hends]
  exact ⟨_, rfl, .inr ⟨fun hdiffers => hothers hdiffers.2.2, _, rfl⟩⟩

theorem renderBody_of_not_slice (h : ctx.AsksSlice x output axis offset)
    (hnot : ¬Slice axis offset x.shape output) :
    ∃ e, split.renderBody ctx = .error e ∧
      ((DiffersElsewhere axis x.shape output ∧
          e = .invalidShape ⟨output.dims.toList, .splitMismatch⟩) ∨
        (¬DiffersElsewhere axis x.shape output ∧
          ∃ fault, e = .unrenderable split.descriptor.name fault)) := by
  obtain ⟨e, he, hcause⟩ := splitAxis_of_not_slice split.descriptor.name h hnot
  have hadditions : split.rule.additions split.descriptor.name ctx = .error e :=
    bind_eq_error_iff.2 (.inl he)
  exact ⟨e, bind_eq_error_iff.2 (.inl hadditions), hcause⟩

/-- Slices of positive extents that follow each other on an axis of an operand, from its start to
its end, have bodies that together read each element of the operand once. A slice that does not lie
inside its operand is refused: with an error about the shape if the axis is one and the output
differs from the operand on another axis, and as not renderable in every other case. -/
theorem split_tiles :
    (∀ (x : Layout) (axis : Int) (extents : List Nat), -4 ≤ axis → axis < 4 →
      (∀ n ∈ extents, 0 < n) → extents.sum = x.shape.dims.get (.ofInt axis) →
      ∃ bodies, Tiles x axis extents bodies) ∧
    ∀ (ctx : BodyContext) (x : LayoutRecord) (output : Shape) (axis offset : Int),
      ctx.AsksSlice x output axis offset → ¬Slice axis offset x.shape output →
      ∃ e, split.renderBody ctx = .error e ∧
        ((DiffersElsewhere axis x.shape output ∧
            e = .invalidShape ⟨output.dims.toList, .splitMismatch⟩) ∨
          (¬DiffersElsewhere axis x.shape output ∧
            ∃ fault, e = .unrenderable split.descriptor.name fault)) :=
  ⟨fun _ _ _ hleast hgreatest hpos hsum => ⟨_, tiles_of_sum hleast hgreatest hpos hsum⟩,
    fun _ _ _ _ _ h hnot => renderBody_of_not_slice h hnot⟩

/-- A tensor of 6 channels. -/
def sixChannels : Layout := .ofFits ⟨⟨1, 6, 2, 3⟩⟩ .plain (by decide) (by decide) (by decide)

/-- What 3 of the 6 channels are asked for with, from a given one on. -/
def threeChannels (offset : Int) : BodyContext where
  operator := "split"
  layouts := (LayoutTable.ofOutput (Layout.ofFits ⟨⟨1, 3, 2, 3⟩⟩ .plain (by decide) (by decide)
    (by decide))).bind originKey sixChannels
  params := .ofList [("axis", .int (-3)), ("offset", .int offset)]
  broadcastArgs := none

theorem asksSlice_threeChannels (offset : Int) :
    (threeChannels offset).AsksSlice sixChannels ⟨⟨1, 3, 2, 3⟩⟩ (-3) offset := by
  have hparams : (threeChannels offset).params =
      (NameMap.empty.insert "axis" (.int (-3))).insert "offset" (.int offset) := rfl
  refine ⟨rfl, rfl, ?_, ?_⟩ <;> simp [hparams, NameMap.find?_insert]

/-- The channels in slices of 1, 2 and 3, with the body of the last slice, and 3 channels that end
behind the last one. -/
theorem split_tiles_channels :
    (∃ bodies, Tiles sixChannels (-3) [1, 2, 3] bodies ∧
      split.renderBody (threeChannels 3) = .ok (bodies 2)) ∧
    ∃ fault, split.renderBody (threeChannels 4) = .error (.unrenderable "split" fault) := by
  obtain ⟨htiles, hrefused⟩ := split_tiles
  constructor
  · obtain ⟨bodies, hbodies⟩ := htiles sixChannels (-3) [1, 2, 3] (by decide) (by decide)
      (by decide) (by decide)
    exact ⟨bodies, hbodies, (hbodies.written 2 3 rfl).2 _ (asksSlice_threeChannels 3)⟩
  · have hnot : ¬Slice (-3) 4 sixChannels.shape ⟨⟨1, 3, 2, 3⟩⟩ :=
      fun h => absurd h.stop (by decide)
    have hsame : ¬DiffersElsewhere (-3) sixChannels.shape ⟨⟨1, 3, 2, 3⟩⟩ := by
      rintro ⟨-, -, d, hd, hdiffers⟩
      revert hd hdiffers
      cases d <;> decide
    obtain ⟨e, he, hcause⟩ := hrefused _ _ _ _ _ (asksSlice_threeChannels 4) hnot
    rcases hcause with ⟨hdiffers, -⟩ | ⟨-, fault, rfl⟩
    · exact absurd hdiffers hsame
    · exact ⟨fault, he⟩

end Operator

end TensorShader
