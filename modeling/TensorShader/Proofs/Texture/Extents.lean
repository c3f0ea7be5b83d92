import TensorShader.Proofs.Addressing.Fragment
import TensorShader.Proofs.Kernel.Layouts
import Mathlib.Algebra.BigOperators.Group.List.Basic
import Mathlib.Tactic.Ring

/-! From a list of dimensions to a texture: which lists have a layout, what is wrong with the
others, and that the texels of a layout are as many as the elements. -/

namespace TensorShader

namespace Shape

/-- The dimensions, after a 1 for each of the four that is missing in front. -/
def padded (dims : List Nat) : List Nat := List.replicate (4 - dims.length) 1 ++ dims

variable {dims : List Nat} {s : Shape} {e : ShapeError} {q : Nchw Nat}

theorem forall_padded_iff {P : Nat → Prop} (hone : P 1) :
    (∀ v ∈ padded dims, P v) ↔ ∀ v ∈ dims, P v := by
  rw [padded, List.forall_mem_append, and_iff_right]
  intro v hv
  rwa [List.eq_of_mem_replicate hv]

theorem prod_padded (dims : List Nat) : (padded dims).prod = dims.prod := by
  rw [padded, List.prod_append, List.prod_replicate, Nat.one_pow, Nat.one_mul]

theorem ofDims_of_rank (hpos : 1 ≤ dims.length) (hle : dims.length ≤ 4) :
    ∃ q : Nchw Nat, padded dims = q.toList ∧ ofDims dims = ofDims.build dims q.n q.c q.h q.w := by
  match dims, hpos, hle with
  | [w], _, _ => exact ⟨⟨1, 1, 1, w⟩, rfl, rfl⟩
  | [h, w], _, _ => exact ⟨⟨1, 1, h, w⟩, rfl, rfl⟩
  | [c, h, w], _, _ => exact ⟨⟨1, c, h, w⟩, rfl, rfl⟩
  | [n, c, h, w], _, _ => exact ⟨⟨n, c, h, w⟩, rfl, rfl⟩

theorem ofDims_of_not_rank (h : ¬(1 ≤ dims.length ∧ dims.length ≤ 4)) :
    ofDims dims = .error ⟨dims, .rank⟩ := by
  match dims with
  | [] => rfl
  | [_] | [_, _] | [_, _, _] | [_, _, _, _] => simp at h
  | _ :: _ :: _ :: _ :: _ :: _ => rfl

theorem dims_map_ofNat (hq : ∀ v ∈ q.toList, v < wordBound) :
    (⟨q.map UInt32.ofNat⟩ : Shape).dims = q := by
  rw [Nchw.toList_eq_map_get, List.forall_mem_map] at hq
  refine Nchw.ext_get fun d => ?_
  rw [Shape.dims, Nchw.get_map, Nchw.get_map]
  exact UInt32.toNat_ofNat_of_lt (hq d (by cases d <;> decide))

theorem build_of_lt (hq : ∀ v ∈ q.toList, v < wordBound) :
    ofDims.build dims q.n q.c q.h q.w = .ok ⟨q.map UInt32.ofNat⟩ := by
  simp only [Nchw.toList, List.forall_mem_cons] at hq
  exact if_pos ⟨hq.1, hq.2.1, hq.2.2.1, hq.2.2.2.1⟩

theorem build_of_not_lt (hq : ¬∀ v ∈ q.toList, v < wordBound) :
    ofDims.build dims q.n q.c q.h q.w = .error ⟨dims, .extentTooLarge⟩ := by
  refine if_neg fun h => hq ?_
  simpa [Nchw.toList] using h

/-- Between one and four dimensions of 32 bits have a shape: its extents are the dimensions, with
ones in front. -/
theorem ofDims_eq_ok_iff :
    ofDims dims = .ok s ↔ (1 ≤ dims.length ∧ dims.length ≤ 4) ∧ s.dims.toList = padded dims := by
  by_cases hrank : 1 ≤ dims.length ∧ dims.length ≤ 4
  · obtain ⟨q, hpadded, hbuild⟩ := ofDims_of_rank hrank.1 hrank.2
    rw [and_iff_right hrank, hpadded, hbuild, Nchw.toList_inj]
    constructor
    · intro h
      by_cases hq : ∀ v ∈ q.toList, v < wordBound
      · rw [build_of_lt hq] at h
        obtain rfl := Except.ok.inj h
        exact dims_map_ofNat hq
      · rw [build_of_not_lt hq] at h
        cases h
    · rintro rfl
      have hq : ∀ v ∈ s.dims.toList, v < wordBound := by
        rw [Nchw.toList_eq_map_get, List.forall_mem_map]
        exact fun d _ => s.dims_get_lt d
      rw [build_of_lt hq]
      exact congrArg Except.ok (ext_dims (dims_map_ofNat hq))
  · rw [ofDims_of_not_rank hrank]
    simp [hrank]

theorem exists_ofDims_iff :
    (∃ s, ofDims dims = .ok s) ↔
      (1 ≤ dims.length ∧ dims.length ≤ 4) ∧ ∀ v ∈ dims, v < wordBound := by
  constructor
  · rintro ⟨s, hs⟩
    obtain ⟨hrank, hdims⟩ := ofDims_eq_ok_iff.1 hs
    refine ⟨hrank, ?_⟩
    rw [← forall_padded_iff (by decide), ← hdims, Nchw.toList_eq_map_get, List.forall_mem_map]
    exact fun d _ => s.dims_get_lt d
  · rintro ⟨hrank, hlt⟩
    obtain ⟨q, hpadded, hbuild⟩ := ofDims_of_rank hrank.1 hrank.2
    rw [← forall_padded_iff (by decide), hpadded] at hlt
    exact ⟨_, hbuild.trans (build_of_lt hlt)⟩

/-- Dimensions without a shape are too few or too many, or one of them does not fit in 32 bits. -/
theorem ofDims_eq_error (h : ofDims dims = .error e) :
    ¬(1 ≤ dims.length ∧ dims.length ≤ 4) ∧ e = ⟨dims, .rank⟩ ∨
      (1 ≤ dims.length ∧ dims.length ≤ 4) ∧ (∃ v ∈ dims, wordBound ≤ v) ∧
        e = ⟨dims, .extentTooLarge⟩ := by
  by_cases hrank : 1 ≤ dims.length ∧ dims.length ≤ 4
  · obtain ⟨q, hpadded, hbuild⟩ := ofDims_of_rank hrank.1 hrank.2
    by_cases hq : ∀ v ∈ q.toList, v < wordBound
    · rw [hbuild, build_of_lt hq] at h
      cases h
    · rw [hbuild, build_of_not_lt hq] at h
      rw [← hpadded, forall_padded_iff (by decide)] at hq
      simp only [not_forall, Nat.not_lt] at hq
      obtain ⟨v, hv, hle⟩ := hq
      exact .inr ⟨hrank, ⟨v, hv, hle⟩, (Except.error.inj h).symm⟩
  · rw [ofDims_of_not_rank hrank] at h
    exact .inl ⟨hrank, (Except.error.inj h).symm⟩

end Shape

namespace Layout

/-- The layout of the shape that a list of dimensions describes. -/
def ofDims (dims : List Nat) (packing : Packing) : Except Error Layout := do
  let s ← (Shape.ofDims dims).mapError .invalidShape
  (Layout.of s packing).mapError .invalidShape

/-- Between one and four dimensions from 1 to below `2^32`, such that the rows of all batches, and
the columns of all channels if these stand side by side, are below `2^32` as well. -/
structure Fits (dims : List Nat) (packing : Packing) : Prop where
  rank : 1 ≤ dims.length ∧ dims.length ≤ 4
  extents : ∀ v ∈ dims, 1 ≤ v ∧ v < wordBound
  texture : ∀ q : Nchw Nat, q.toList = Shape.padded dims → q.n * q.h < wordBound ∧
    (packing = .channelMajor → q.w * q.c < wordBound)

/-- What is wrong with dimensions: the first of four faults. The first two are told of the
dimensions as they are, the others of the shape that they describe. -/
inductive Misfit (dims : List Nat) (packing : Packing) : ShapeError → Prop
  | rank : ¬(1 ≤ dims.length ∧ dims.length ≤ 4) → Misfit dims packing ⟨dims, .rank⟩
  | extentTooLarge : 1 ≤ dims.length ∧ dims.length ≤ 4 → (∃ v ∈ dims, wordBound ≤ v) →
      Misfit dims packing ⟨dims, .extentTooLarge⟩
  | emptyExtent : 1 ≤ dims.length ∧ dims.length ≤ 4 → (∀ v ∈ dims, v < wordBound) → 0 ∈ dims →
      Misfit dims packing ⟨Shape.padded dims, .emptyExtent⟩
  | textureOverflow : 1 ≤ dims.length ∧ dims.length ≤ 4 → (∀ v ∈ dims, 1 ≤ v ∧ v < wordBound) →
      ¬Fits dims packing → Misfit dims packing ⟨Shape.padded dims, .textureOverflow⟩

variable {dims : List Nat} {packing : Packing} {l m : Layout} {s : Shape} {e : ShapeError}

theorem ofDims_eq_ok_iff : ofDims dims packing = .ok l ↔
    (1 ≤ dims.length ∧ dims.length ≤ 4) ∧ l.shape.dims.toList = Shape.padded dims ∧
      l.packing = packing := by
  simp only [ofDims, bind_eq_ok_iff, mapError_eq_ok_iff, Shape.ofDims_eq_ok_iff, of_eq_ok_iff]
  constructor
  · rintro ⟨_, ⟨hrank, hdims⟩, rfl, hpacking⟩
    exact ⟨hrank, hdims, hpacking⟩
  · rintro ⟨hrank, hdims, hpacking⟩
    exact ⟨l.shape, ⟨hrank, hdims⟩, rfl, hpacking⟩

theorem exists_of_iff : (∃ l, Layout.of s packing = .ok l) ↔
    s.Nonempty ∧ s.dims.n * s.dims.h < wordBound ∧
      (packing = .channelMajor → s.dims.w * s.dims.c < wordBound) := by
  have hwidth : packing.width s < wordBound ↔
      (packing = .channelMajor → s.dims.w * s.dims.c < wordBound) := by
    cases packing with
    | plain => exact ⟨nofun, fun _ => s.dims_get_lt .w⟩
    | channelMajor => simp [Packing.width]
  rw [← hwidth, Nat.mul_comm s.dims.n]
  simp only [of_eq_ok_iff]
  constructor
  · rintro ⟨l, rfl, rfl⟩
    exact ⟨l.nonempty, l.height_lt, l.width_lt⟩
  · rintro ⟨hnonempty, hheight, hwidth⟩
    exact ⟨.ofFits s packing hnonempty hheight hwidth, rfl, rfl⟩

theorem of_eq_error (h : Layout.of s packing = .error e) :
    ¬s.Nonempty ∧ e = ⟨s.dims.toList, .emptyExtent⟩ ∨
      s.Nonempty ∧ e = ⟨s.dims.toList, .textureOverflow⟩ := by
  unfold Layout.of at h
  split at h
  · split at h
    · cases h
    · exact .inr ⟨‹_›, (Except.error.inj h).symm⟩
  · exact .inl ⟨‹_›, (Except.error.inj h).symm⟩

/-- A shape is without empty extents exactly if none of the dimensions it was read from is zero. -/
theorem nonempty_iff_of_dims (h : s.dims.toList = Shape.padded dims) :
    s.Nonempty ↔ ∀ v ∈ dims, 1 ≤ v := by
  rw [← Shape.forall_padded_iff le_rfl, ← h, Nchw.toList_eq_map_get, List.forall_mem_map]
  exact ⟨fun hs d _ => hs d, fun hs d => hs d (by cases d <;> decide)⟩

theorem exists_ofDims_iff : (∃ l, ofDims dims packing = .ok l) ↔ Fits dims packing := by
  constructor
  · rintro ⟨l, hl⟩
    obtain ⟨hrank, hdims, hpacking⟩ := ofDims_eq_ok_iff.1 hl
    obtain ⟨hnonempty, htexture⟩ := exists_of_iff.1 ⟨l, of_eq_ok_iff.2 ⟨rfl, hpacking⟩⟩
    have hlt := (Shape.exists_ofDims_iff.1 ⟨l.shape, Shape.ofDims_eq_ok_iff.2 ⟨hrank, hdims⟩⟩).2
    have hpos := (nonempty_iff_of_dims hdims).1 hnonempty
    refine ⟨hrank, fun v hv => ⟨hpos v hv, hlt v hv⟩, fun q hq => ?_⟩
    obtain rfl := Nchw.toList_inj.1 (hq.trans hdims.symm)
    exact htexture
  · rintro ⟨hrank, hextents, htexture⟩
    obtain ⟨s, hs⟩ := Shape.exists_ofDims_iff.2 ⟨hrank, fun v hv => (hextents v hv).2⟩
    have hdims := (Shape.ofDims_eq_ok_iff.1 hs).2
    have hnonempty := (nonempty_iff_of_dims hdims).2 fun v hv => (hextents v hv).1
    obtain ⟨l, hl⟩ := exists_of_iff.2 ⟨hnonempty, htexture s.dims hdims⟩
    obtain ⟨rfl, hpacking⟩ := of_eq_ok_iff.1 hl
    exact ⟨l, ofDims_eq_ok_iff.2 ⟨hrank, hdims, hpacking⟩⟩

theorem misfit_of_eq_error {err : Error} (h : ofDims dims packing = .error err) :
    ∃ e, err = .invalidShape e ∧ Misfit dims packing e := by
  have hfits : ¬Fits dims packing := fun hfits => by
    obtain ⟨l, hl⟩ := exists_ofDims_iff.2 hfits
    rw [hl] at h
    cases h
  rcases bind_eq_error_iff.1 h with h | ⟨s, hs, h⟩
  · obtain ⟨e, he, rfl⟩ := mapError_eq_error_iff.1 h
    rcases Shape.ofDims_eq_error he with ⟨hrank, rfl⟩ | ⟨hrank, hlarge, rfl⟩
    · exact ⟨_, rfl, .rank hrank⟩
    · exact ⟨_, rfl, .extentTooLarge hrank hlarge⟩
  · obtain ⟨e, he, rfl⟩ := mapError_eq_error_iff.1 h
    have hs := mapError_eq_ok_iff.1 hs
    obtain ⟨hrank, hlt⟩ := Shape.exists_ofDims_iff.1 ⟨s, hs⟩
    have hdims := (Shape.ofDims_eq_ok_iff.1 hs).2
    rcases of_eq_error he with ⟨hempty, rfl⟩ | ⟨hnonempty, rfl⟩ <;> rw [hdims]
    · rw [nonempty_iff_of_dims hdims] at hempty
      simp only [not_forall, Nat.not_le, Nat.lt_one_iff] at hempty
      obtain ⟨_, hmem, rfl⟩ := hempty
      exact ⟨_, rfl, .emptyExtent hrank hlt hmem⟩
    · have hpos := (nonempty_iff_of_dims hdims).1 hnonempty
      exact ⟨_, rfl, .textureOverflow hrank (fun v hv => ⟨hpos v hv, hlt v hv⟩) hfits⟩

/-- A layout has a texel for each element. -/
theorem texels_eq_prod (l : Layout) :
    l.width.toNat * l.height.toNat * l.layers.toNat = l.shape.dims.toList.prod := by
  rw [l.width_eq, l.height_eq, l.layers_eq]
  unfold Nchw.toList
  simp only [List.prod_cons, List.prod_nil]
  cases l.packing with
  | plain => simp only [Packing.width, Packing.layers]; ring
  | channelMajor => simp only [Packing.width, Packing.layers]; ring

/-- Elements side by side in a single layer can be counted in 64 bits. -/
theorem toNat_numel_of_channelMajor {l : Layout} (h : l.packing = .channelMajor) :
    l.shape.numel.toNat = l.width.toNat * l.height.toNat * l.layers.toNat := by
  have hlayers : l.layers.toNat = 1 := by rw [l.layers_eq, h, Packing.layers]
  have hcount : l.shape.dims.n * l.shape.dims.c * l.shape.dims.h * l.shape.dims.w =
      l.width.toNat * l.height.toNat * l.layers.toNat := by
    rw [texels_eq_prod]
    simp [Nchw.toList, Nat.mul_assoc]
  have hlt : l.width.toNat * l.height.toNat * l.layers.toNat < wordBound * wordBound := by
    rw [hlayers, Nat.mul_one]
    exact Nat.mul_lt_mul'' l.width.toNat_lt l.height.toNat_lt
  rw [Shape.toNat_numel, hcount]
  exact Nat.mod_eq_of_lt hlt

/-- Dimensions have a layout exactly if they fit; otherwise the error is about the shape and tells
the first fault. A layout has as many texels as the dimensions have elements, whatever the packing:
its height is that of all batches, and with channels side by side it is as much wider as it has
layers otherwise. -/
theorem ofDims_accounts (dims : List Nat) (packing : Packing) :
    ((∃ l, ofDims dims packing = .ok l) ↔ Fits dims packing) ∧
    (∀ err, ofDims dims packing = .error err →
      ∃ e, err = .invalidShape e ∧ Misfit dims packing e) ∧
    (∀ l, ofDims dims packing = .ok l →
      l.width.toNat * l.height.toNat * l.layers.toNat = dims.prod ∧
      l.height.toNat = l.shape.dims.n * l.shape.dims.h ∧
      l.packRatio.toNat = l.shape.dims.n ∧
      l.shape.dims.toList = Shape.padded dims ∧ dims <:+ l.shape.dims.toList) ∧
    ∀ l m, ofDims dims .plain = .ok l → ofDims dims .channelMajor = .ok m →
      m.height = l.height ∧ m.width.toNat = l.width.toNat * l.layers.toNat := by
  refine ⟨exists_ofDims_iff, fun _ => misfit_of_eq_error, fun l hl => ?_, fun l m hl hm => ?_⟩
  · obtain ⟨-, hdims, -⟩ := ofDims_eq_ok_iff.1 hl
    have hprod : l.shape.dims.toList.prod = dims.prod := by rw [hdims, Shape.prod_padded]
    exact ⟨l.texels_eq_prod.trans hprod, l.height_eq.trans (Nat.mul_comm _ _), l.toNat_packRatio,
      hdims, hdims ▸ List.suffix_append _ _⟩
  · obtain ⟨-, hdims, hplain⟩ := ofDims_eq_ok_iff.1 hl
    obtain ⟨-, hdims', hmajor⟩ := ofDims_eq_ok_iff.1 hm
    have hsame : l.shape = m.shape :=
      Shape.ext_dims (Nchw.toList_inj.1 (hdims.trans hdims'.symm))
    constructor
    · rw [← UInt32.toNat_inj, m.height_eq, l.height_eq, hsame]
    · rw [m.width_eq, l.width_eq, l.layers_eq, hplain, hmajor, hsame]
      rfl

/-- The rows of 65535 batches of 65537 rows can just be counted in 32 bits; one batch more, with one
row less, has as many rows as there are numbers of 32 bits. -/
theorem ofDims_accounts_limit :
    (∃ l, ofDims [65535, 1, 65537, 1] .channelMajor = .ok l ∧
      l.width.toNat * l.height.toNat * l.layers.toNat = 4294967295) ∧
    ∀ l, ofDims [65536, 1, 65536, 1] .channelMajor ≠ .ok l := by
  constructor
  · have hfits : Fits [65535, 1, 65537, 1] .channelMajor := by
      refine ⟨by decide, by decide, fun q hq => ?_⟩
      obtain rfl : q = ⟨65535, 1, 65537, 1⟩ := Nchw.toList_inj.1 hq
      decide
    obtain ⟨hiff, -, hcount, -⟩ := ofDims_accounts [65535, 1, 65537, 1] .channelMajor
    obtain ⟨l, hl⟩ := hiff.2 hfits
    exact ⟨l, hl, (hcount l hl).1⟩
  · intro l hl
    have hfits := (ofDims_accounts [65536, 1, 65536, 1] .channelMajor).1.1 ⟨l, hl⟩
    have hrows := (hfits.texture ⟨65536, 1, 65536, 1⟩ rfl).1
    exact absurd hrows (by decide)

end Layout

end TensorShader
