import TensorShader.Tensor.Coord
import TensorShader.Texture.Layout
import Mathlib.Data.Set.Function

/-! The texels of a layout. Rows of batches are stacked, and channels are layers or stand side by
side, so an element has one texel, and every texel of the texture holds one element. -/

namespace TensorShader

/-- Every component is an index of its dimension. -/
def Coord.Inside (p : Coord) (s : Shape) : Prop := ∀ d : Axis, p.get d < s.dims.get d

theorem Coord.inside_iff {p : Coord} {s : Shape} :
    p.Inside s ↔ p.n < s.dims.n ∧ p.c < s.dims.c ∧ p.h < s.dims.h ∧ p.w < s.dims.w :=
  ⟨fun h => ⟨h .n, h .c, h .h, h .w⟩, fun ⟨hn, hc, hh, hw⟩ d => by cases d <;> assumption⟩

instance (p : Coord) (s : Shape) : Decidable (p.Inside s) := decidable_of_iff _ p.inside_iff.symm

/-- A place on a texture with layers. -/
structure Texel where
  x : Nat
  y : Nat
  layer : Nat
deriving DecidableEq, Repr

/-- The place lies on the texture of a layout. -/
def Texel.Inside (t : Texel) (l : LayoutRecord) : Prop :=
  t.x < l.width.toNat ∧ t.y < l.height.toNat ∧ t.layer < l.layers.toNat

instance (t : Texel) (l : LayoutRecord) : Decidable (t.Inside l) := inferInstanceAs (Decidable (_ ∧ _))

/-- Rows of equal length, one after the other: the start of the row and the place in it. -/
theorem div_row {size i j : Nat} (hj : j < size) : (i * size + j) / size = i := by
  have hpos : 0 < size := Nat.zero_lt_of_lt hj
  rw [Nat.mul_comm, Nat.mul_add_div hpos, Nat.div_eq_of_lt hj, Nat.add_zero]

theorem mod_row {size i j : Nat} (hj : j < size) : (i * size + j) % size = j := by
  rw [Nat.mul_comm, Nat.mul_add_mod, Nat.mod_eq_of_lt hj]

theorem row_lt {size count i j : Nat} (hi : i < count) (hj : j < size) :
    i * size + j < size * count := by
  have hle : (i + 1) * size ≤ count * size := Nat.mul_le_mul_right size hi
  rw [Nat.add_mul, Nat.one_mul, Nat.mul_comm count] at hle
  omega

namespace LayoutRecord

variable (l : LayoutRecord)

/-- The texel that holds the element at a coordinate. -/
def texel (p : Coord) : Texel :=
  let row := p.n * l.shape.dims.h + p.h
  match l.packing with
  | .plain => ⟨p.w, row, p.c⟩
  | .channelMajor => ⟨p.c * l.shape.dims.w + p.w, row, 0⟩

/-- The coordinate of the element that a texel holds. -/
def coord (t : Texel) : Coord :=
  let n := t.y / l.shape.dims.h
  let h := t.y % l.shape.dims.h
  match l.packing with
  | .plain => ⟨n, t.layer, h, t.x⟩
  | .channelMajor => ⟨n, t.x / l.shape.dims.w, h, t.x % l.shape.dims.w⟩

variable {l}

theorem coord_texel {p : Coord} (hp : p.Inside l.shape) : l.coord (l.texel p) = p := by
  obtain ⟨-, -, hh, hw⟩ := Coord.inside_iff.1 hp
  unfold coord texel
  cases l.packing <;> simp only [div_row hh, mod_row hh, div_row hw, mod_row hw]

end LayoutRecord

namespace Layout

variable {l : Layout}

/-- The extents of the texture are those of the shape. -/
theorem inside_iff {t : Texel} :
    t.Inside l ↔ t.x < l.packing.width l.shape ∧ t.y < l.shape.dims.h * l.shape.dims.n ∧
      t.layer < l.packing.layers l.shape := by
  rw [Texel.Inside, l.width_eq, l.height_eq, l.layers_eq]

theorem texel_inside {p : Coord} (hp : p.Inside l.shape) : (l.texel p).Inside l := by
  obtain ⟨hn, hc, hh, hw⟩ := Coord.inside_iff.1 hp
  have hrow := row_lt hn hh
  rw [inside_iff]
  unfold LayoutRecord.texel
  cases l.packing with
  | plain => exact ⟨hw, hrow, hc⟩
  | channelMajor => exact ⟨row_lt hc hw, hrow, Nat.one_pos⟩

theorem coord_inside {t : Texel} (ht : t.Inside l) : (l.coord t).Inside l.shape := by
  obtain ⟨hn, hc, hh, hw⟩ := l.shape.nonempty_iff.1 l.nonempty
  obtain ⟨hx, hy, hlayer⟩ := inside_iff.1 ht
  have hrow : t.y / l.shape.dims.h < l.shape.dims.n := Nat.div_lt_of_lt_mul hy
  have hplace : t.y % l.shape.dims.h < l.shape.dims.h := Nat.mod_lt _ hh
  unfold LayoutRecord.coord
  cases hp : l.packing with
  | plain =>
    rw [hp] at hx hlayer
    exact Coord.inside_iff.2 ⟨hrow, hlayer, hplace, hx⟩
  | channelMajor =>
    rw [hp] at hx
    exact Coord.inside_iff.2 ⟨hrow, Nat.div_lt_of_lt_mul hx, hplace, Nat.mod_lt _ hw⟩

theorem texel_coord {t : Texel} (ht : t.Inside l) : l.texel (l.coord t) = t := by
  have hy : t.y / l.shape.dims.h * l.shape.dims.h + t.y % l.shape.dims.h = t.y :=
    Nat.div_add_mod' _ _
  obtain ⟨-, -, hlayer⟩ := inside_iff.1 ht
  unfold LayoutRecord.coord LayoutRecord.texel
  cases hp : l.packing with
  | plain => simp only [hy]
  | channelMajor =>
    -- with channels side by side there is one layer
    rw [hp] at hlayer
    have hx : t.x / l.shape.dims.w * l.shape.dims.w + t.x % l.shape.dims.w = t.x :=
      Nat.div_add_mod' _ _
    have hzero : 0 = t.layer := (Nat.lt_one_iff.1 hlayer).symm
    simp only [hy, hx, hzero]

theorem texel_bijOn (l : Layout) :
    Set.BijOn l.texel {p | p.Inside l.shape} {t | t.Inside l} :=
  Set.InvOn.bijOn ⟨fun _ hp => LayoutRecord.coord_texel hp, fun _ ht => texel_coord ht⟩
    (fun _ hp => texel_inside hp) fun _ ht => coord_inside ht

end Layout

end TensorShader
