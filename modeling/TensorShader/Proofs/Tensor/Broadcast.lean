import TensorShader.Proofs.Texture.Texel

/-! Broadcasting as a clamp to the edges of a shape. Two of them, one after the other, are one
broadcast to what the shapes have in common; order is kept, and what is inside stays. -/

namespace TensorShader

/-- The smaller extent in each dimension. -/
def Shape.min (s t : Shape) : Shape :=
  ⟨.ofFn fun d => if s.dims.get d ≤ t.dims.get d then s.toNchw.get d else t.toNchw.get d⟩

theorem Shape.dims_min (s t : Shape) (d : Axis) :
    (s.min t).dims.get d = Min.min (s.dims.get d) (t.dims.get d) := by
  have hdims (r : Shape) : r.dims.get d = (r.toNchw.get d).toNat := Nchw.get_map _ _ d
  rw [hdims, Shape.min, Nchw.get_ofFn]
  split
  · rw [← hdims, Nat.min_eq_left ‹_›]
  · rw [← hdims, Nat.min_eq_right (by omega)]

/-- Of two axis parameters, the one that reads more leading dimensions at index 0. -/
def Alignment.stronger (a b : Int) : Int :=
  if (ofParam a).leading ≤ (ofParam b).leading then b else a

theorem Alignment.leading_stronger (a b : Int) :
    (ofParam (stronger a b)).leading = max (ofParam a).leading (ofParam b).leading := by
  unfold stronger
  split
  · rw [Nat.max_eq_right ‹_›]
  · rw [Nat.max_eq_left (by omega)]

namespace Coord

/-- No component is greater. -/
def Le (p q : Coord) : Prop := ∀ d : Axis, p.get d ≤ q.get d

instance (p q : Coord) : Decidable (p.Le q) :=
  decidable_of_iff (p.n ≤ q.n ∧ p.c ≤ q.c ∧ p.h ≤ q.h ∧ p.w ≤ q.w)
    ⟨fun ⟨hn, hc, hh, hw⟩ d => by cases d <;> assumption, fun h => ⟨h .n, h .c, h .h, h .w⟩⟩

variable {p q : Coord} {s t : Shape} {a b : Alignment}

/-- Broadcasting depends on an alignment through the number of dimensions read at index 0, and on a
shape through its last indices in the other dimensions. -/
theorem broadcast_congr (hleading : a.leading = b.leading)
    (hlast : ∀ d, a.leading ≤ d.index → s.dims.get d - 1 = t.dims.get d - 1) :
    p.broadcast s a = p.broadcast t b := by
  refine Nchw.ext_get fun d => ?_
  rw [get_broadcast, get_broadcast, hleading]
  split
  · rfl
  · rw [hlast d (by omega)]

/-- Two broadcasts are one, to the shape with the smaller extents, that reads index 0 wherever one
of them does. -/
theorem broadcast_broadcast {c : Alignment} (hc : c.leading = max a.leading b.leading) :
    (p.broadcast s a).broadcast t b = p.broadcast (s.min t) c := by
  refine Nchw.ext_get fun d => ?_
  rw [get_broadcast, get_broadcast, get_broadcast, Shape.dims_min, hc]
  by_cases hb : d.index < b.leading
  · rw [if_pos hb, if_pos (Nat.lt_of_lt_of_le hb (Nat.le_max_right _ _))]
  · rw [if_neg hb]
    by_cases ha : d.index < a.leading
    · rw [if_pos ha, if_pos (Nat.lt_of_lt_of_le ha (Nat.le_max_left _ _)), Nat.zero_min]
    · rw [if_neg ha, if_neg (by omega)]
      omega

theorem broadcast_le_broadcast (h : p.Le q) (s : Shape) (a : Alignment) :
    (p.broadcast s a).Le (q.broadcast s a) := by
  intro d
  have hd := h d
  rw [get_broadcast, get_broadcast]
  split
  · rfl
  · omega

theorem broadcast_inside (p : Coord) {s : Shape} (hs : s.Nonempty) (a : Alignment) :
    (p.broadcast s a).Inside s := by
  intro d
  have hpos := hs d
  rw [Coord.get_broadcast]
  split
  · exact hpos
  · omega

theorem get_broadcast_of_lt {d : Axis} (h : d.index < a.leading) : (p.broadcast s a).get d = 0 := by
  rw [get_broadcast, if_pos h]

theorem get_broadcast_of_inside {d : Axis} (hd : a.leading ≤ d.index)
    (hp : p.get d < s.dims.get d) : (p.broadcast s a).get d = p.get d := by
  rw [get_broadcast, if_neg (by omega)]
  omega

/-- Broadcasting composes: to one shape and then to another is to the smaller extents of both, with
the axis that reads more dimensions at index 0. So a second time changes nothing, and two broadcasts
can be exchanged. The result grows with the coordinate; it lies inside a shape without empty
extents, at index 0 in the leading dimensions; and in the others an index inside stays. -/
theorem broadcast_composes (p : Coord) (s t : Shape) (a b : Int) :
    (p.broadcast s (.ofParam a)).broadcast t (.ofParam b) =
      p.broadcast (s.min t) (.ofParam (Alignment.stronger a b)) ∧
    (p.broadcast s (.ofParam a)).broadcast s (.ofParam a) = p.broadcast s (.ofParam a) ∧
    (p.broadcast s (.ofParam a)).broadcast t (.ofParam b) =
      (p.broadcast t (.ofParam b)).broadcast s (.ofParam a) ∧
    (∀ q : Coord, p.Le q → (p.broadcast s (.ofParam a)).Le (q.broadcast s (.ofParam a))) ∧
    (s.Nonempty → (p.broadcast s (.ofParam a)).Inside s) ∧
    (∀ d : Axis, d.index < (Alignment.ofParam a).leading →
      (p.broadcast s (.ofParam a)).get d = 0) ∧
    ∀ d : Axis, (Alignment.ofParam a).leading ≤ d.index → p.get d < s.dims.get d →
      (p.broadcast s (.ofParam a)).get d = p.get d := by
  have hcompose (s t : Shape) (a b : Int) :
      (p.broadcast s (.ofParam a)).broadcast t (.ofParam b) =
        p.broadcast (s.min t) (.ofParam (Alignment.stronger a b)) :=
    broadcast_broadcast (Alignment.leading_stronger a b)
  refine ⟨hcompose s t a b, ?_, ?_, fun q h => broadcast_le_broadcast h s _,
    fun hs => p.broadcast_inside hs _, fun d => get_broadcast_of_lt,
    fun d => get_broadcast_of_inside⟩
  · rw [hcompose]
    refine broadcast_congr (by simp [Alignment.leading_stronger]) fun d _ => ?_
    rw [Shape.dims_min, Nat.min_self]
  · rw [hcompose, hcompose]
    refine broadcast_congr ?_ fun d _ => ?_
    · rw [Alignment.leading_stronger, Alignment.leading_stronger, Nat.max_comm]
    · rw [Shape.dims_min, Shape.dims_min, Nat.min_comm]

/-- Also by way of a shape with an empty extent. -/
theorem broadcast_composes_empty :
    (Coord.broadcast ⟨5, 7, 2, 9⟩ ⟨⟨2, 3, 4, 5⟩⟩ (.ofParam 1)).broadcast ⟨⟨1, 0, 6, 4⟩⟩
        (.ofParam (-1)) = Coord.broadcast ⟨5, 7, 2, 9⟩ ⟨⟨1, 0, 4, 4⟩⟩ (.ofParam 1) ∧
      Shape.Nonempty ⟨⟨2, 3, 4, 5⟩⟩ ∧
      (Coord.broadcast ⟨5, 7, 2, 9⟩ ⟨⟨2, 3, 4, 5⟩⟩ (.ofParam 1)).Inside ⟨⟨2, 3, 4, 5⟩⟩ := by
  obtain ⟨hcompose, -, -, -, hinside, -⟩ :=
    broadcast_composes ⟨5, 7, 2, 9⟩ ⟨⟨2, 3, 4, 5⟩⟩ ⟨⟨1, 0, 6, 4⟩⟩ 1 (-1)
  exact ⟨hcompose, by decide, hinside (by decide)⟩

end Coord

end TensorShader
