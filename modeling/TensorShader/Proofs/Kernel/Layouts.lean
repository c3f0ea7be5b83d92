import TensorShader.Kernel.Assembler
import TensorShader.Proofs.Except
import Mathlib.Data.List.Induction
import Mathlib.Data.List.Nodup

/-! The layouts of one kernel: which shapes have a layout under the settings of an assembler, and
which layouts the operands of an operator get. -/

namespace TensorShader

/-- A shape without empty extents, whose texture has extents of 32 bits and is not larger than the
device allows. -/
structure Config.Admits (c : Config) (s : Shape) : Prop where
  nonempty : s.Nonempty
  height_lt : s.dims.h * s.dims.n < wordBound
  width_lt : c.packing.width s < wordBound
  height_le : s.dims.h * s.dims.n ≤ c.maxTextureSize.toNat
  width_le : c.packing.width s ≤ c.maxTextureSize.toNat

theorem Layout.of_eq_ok_iff {s : Shape} {packing : Packing} {l : Layout} :
    Layout.of s packing = .ok l ↔ l.shape = s ∧ l.packing = packing := by
  unfold Layout.of
  constructor
  · intro h
    split at h
    · split at h
      · obtain rfl := Except.ok.inj h
        exact ⟨rfl, rfl⟩
      · cases h
    · cases h
  · rintro ⟨rfl, rfl⟩
    rw [dif_pos l.nonempty, dif_pos ⟨l.height_lt, l.width_lt⟩]
    exact congrArg Except.ok (Layout.ext_shape rfl rfl)

namespace Assembler

variable {a : Assembler} {d : Descriptor} {shapes : OperandShapes} {s : Shape} {l : Layout}
  {t t' : LayoutTable} {o : Operand}

theorem layout_eq_ok_iff :
    a.layout s = .ok l ↔ l.shape = s ∧ l.packing = a.config.packing ∧
      l.height.toNat ≤ a.config.maxTextureSize.toNat ∧
      l.width.toNat ≤ a.config.maxTextureSize.toNat := by
  unfold layout
  rw [bind_eq_ok_iff]
  constructor
  · rintro ⟨m, hm, hlimit⟩
    simp only at hlimit
    split at hlimit
    · cases hlimit
    · rename_i hle
      obtain rfl := Except.ok.inj hlimit
      obtain ⟨hshape, hpacking⟩ := Layout.of_eq_ok_iff.1 (mapError_eq_ok_iff.1 hm)
      exact ⟨hshape, hpacking, by omega, by omega⟩
  · rintro ⟨hshape, hpacking, hheight, hwidth⟩
    exact ⟨l, mapError_eq_ok_iff.2 (Layout.of_eq_ok_iff.2 ⟨hshape, hpacking⟩), if_neg (by omega)⟩

theorem exists_layout_iff : (∃ l, a.layout s = .ok l) ↔ a.config.Admits s := by
  constructor
  · rintro ⟨l, hl⟩
    obtain ⟨rfl, hpacking, hheight, hwidth⟩ := layout_eq_ok_iff.1 hl
    have hlt := l.width_lt
    rw [l.height_eq] at hheight
    rw [l.width_eq, hpacking] at hwidth
    rw [hpacking] at hlt
    exact ⟨l.nonempty, l.height_lt, hlt, hheight, hwidth⟩
  · rintro ⟨hnonempty, hheight_lt, hwidth_lt, hheight, hwidth⟩
    refine ⟨.ofFits s a.config.packing hnonempty hheight_lt hwidth_lt,
      layout_eq_ok_iff.2 ⟨rfl, rfl, ?_, ?_⟩⟩
    · rwa [Layout.height_eq]
    · rwa [Layout.width_eq]

theorem bindOperand_eq_ok_iff :
    a.bindOperand d shapes t o = .ok t' ↔ ∃ s l, shapes.get? o.name = some s ∧
      a.layout s = .ok l ∧ t' = t.bind o.binding l := by
  unfold bindOperand
  cases hs : shapes.get? o.name with
  | none => simp
  | some s =>
    simp only [map_eq_ok_iff, Option.some.injEq]
    constructor
    · rintro ⟨l, hl, rfl⟩
      exact ⟨s, l, rfl, hl, rfl⟩
    · rintro ⟨s', l, rfl, hl, rfl⟩
      exact ⟨l, hl, rfl⟩

theorem exists_layouts_iff :
    (∃ t, a.layouts d shapes = .ok t) ↔ a.config.Admits shapes.output ∧
      ∀ o ∈ d.inputs, ∃ s, shapes.get? o.name = some s ∧ a.config.Admits s := by
  have hstep (t : LayoutTable) (o : Operand) :
      (∃ t', a.bindOperand d shapes t o = .ok t') ↔
        ∃ s, shapes.get? o.name = some s ∧ a.config.Admits s := by
    simp only [bindOperand_eq_ok_iff, ← exists_layout_iff]
    constructor
    · rintro ⟨_, s, l, hs, hl, -⟩
      exact ⟨s, hs, l, hl⟩
    · rintro ⟨s, hs, l, hl⟩
      exact ⟨_, s, l, hs, hl, rfl⟩
  simp only [layouts, bind_eq_ok_iff]
  constructor
  · rintro ⟨t, out, hout, hfold⟩
    exact ⟨exists_layout_iff.1 ⟨out, hout⟩, (exists_foldlM_eq_ok_iff hstep _).1 ⟨t, hfold⟩⟩
  · rintro ⟨hout, hall⟩
    obtain ⟨out, hout⟩ := exists_layout_iff.2 hout
    obtain ⟨t, hfold⟩ := (exists_foldlM_eq_ok_iff hstep (.ofOutput out)).2 hall
    exact ⟨t, out, hout, hfold⟩

theorem get_bind (t : LayoutTable) (key other : String) (l : LayoutRecord) :
    (t.bind key l).get other = if other = key then .ok l else t.get other := by
  unfold LayoutTable.get LayoutTable.bind
  rw [NameMap.find?_insert]
  by_cases hother : other = key
  · simp [hother]
  · simp [hother]

/-- The last of the operands with a binding. -/
def lastBound? (key : String) (os : List Operand) : Option Operand :=
  os.reverse.find? fun o => o.binding = key

theorem lastBound?_concat (key : String) (os : List Operand) (o : Operand) :
    lastBound? key (os ++ [o]) = if o.binding = key then some o else lastBound? key os := by
  rw [lastBound?, List.reverse_append, List.reverse_singleton, List.singleton_append,
    List.find?_cons, lastBound?]
  by_cases h : o.binding = key <;> simp [h]

theorem exists_lastBound? {os : List Operand} (ho : o ∈ os) :
    ∃ last ∈ os, lastBound? o.binding os = some last ∧ last.binding = o.binding := by
  cases h : lastBound? o.binding os with
  | none =>
    have hne := List.find?_eq_none.mp h o (List.mem_reverse.mpr ho)
    simp at hne
  | some last =>
    exact ⟨last, List.mem_reverse.mp (List.mem_of_find?_eq_some h), rfl,
      by simpa using List.find?_some h⟩

/-- What binding operands does to a table: a binding gets the layout of the last operand with it,
and nothing else changes. -/
theorem foldlM_bindOperand {os : List Operand}
    (h : os.foldlM (a.bindOperand d shapes) t = .ok t') :
    t'.output = t.output ∧ ∀ key,
      (lastBound? key os = none → t'.get key = t.get key) ∧
      ∀ last, lastBound? key os = some last → ∃ s, ∃ l : Layout,
        shapes.get? last.name = some s ∧ a.layout s = .ok l ∧ t'.get key = .ok l := by
  induction os using List.reverseRecOn generalizing t' with
  | nil =>
    obtain rfl := Except.ok.inj h
    exact ⟨rfl, fun key => ⟨fun _ => rfl, nofun⟩⟩
  | append_singleton os o ih =>
    rw [List.foldlM_append] at h
    obtain ⟨m, hm, hlast⟩ := bind_eq_ok_iff.1 h
    rw [List.foldlM_cons] at hlast
    obtain ⟨_, ho, heq⟩ := bind_eq_ok_iff.1 hlast
    obtain rfl := Except.ok.inj heq
    obtain ⟨s, l, hs, hl, rfl⟩ := bindOperand_eq_ok_iff.1 ho
    obtain ⟨hout, hget⟩ := ih hm
    refine ⟨hout, fun key => ?_⟩
    rw [lastBound?_concat, get_bind]
    by_cases hkey : o.binding = key
    · rw [if_pos hkey, if_pos hkey.symm]
      refine ⟨nofun, fun last heq => ?_⟩
      obtain rfl := Option.some.inj heq
      exact ⟨s, l, hs, hl, rfl⟩
    · rw [if_neg hkey, if_neg fun h => hkey h.symm]
      exact hget key

/-- The output gets the layout of its shape, and so does each operand, but that of the last operand
with the same binding. -/
theorem layouts_get (h : a.layouts d shapes = .ok t) :
    (∃ out : Layout, a.layout shapes.output = .ok out ∧ t.output = out) ∧
      ∀ key last, lastBound? key d.inputs = some last → ∃ s, ∃ l : Layout,
        shapes.get? last.name = some s ∧ a.layout s = .ok l ∧ t.get key = .ok l := by
  obtain ⟨out, hout, hfold⟩ := bind_eq_ok_iff.1 h
  obtain ⟨houtput, hget⟩ := foldlM_bindOperand hfold
  exact ⟨⟨out, hout, houtput⟩, fun key last hlast => (hget key).2 last hlast⟩

/-- The layout of the output is that of its shape, which has no empty extents. -/
theorem output_of_layouts (h : a.layouts d shapes = .ok t) :
    t.output.shape = shapes.output ∧ t.output.packing = a.config.packing ∧
      t.output.shape.Nonempty := by
  obtain ⟨⟨out, hout, houtput⟩, -⟩ := layouts_get h
  obtain ⟨hshape, hpacking, -⟩ := layout_eq_ok_iff.1 hout
  rw [houtput]
  exact ⟨hshape, hpacking, out.nonempty⟩

/-- Under different bindings, each operand gets the layout of its own shape. -/
theorem operand_of_layouts (hnodup : (d.inputs.map (·.binding)).Nodup)
    (h : a.layouts d shapes = .ok t) (ho : o ∈ d.inputs) :
    ∃ l : Layout, shapes.get? o.name = some l.shape ∧ l.packing = a.config.packing ∧
      t.get o.binding = .ok l := by
  obtain ⟨last, hmem, hlast, hbinding⟩ := exists_lastBound? ho
  obtain rfl : last = o := List.inj_on_of_nodup_map hnodup hmem ho hbinding
  obtain ⟨s, l, hs, hl, hget⟩ := (layouts_get h).2 last.binding last hlast
  obtain ⟨rfl, hpacking, -⟩ := layout_eq_ok_iff.1 hl
  exact ⟨l, hs, hpacking, hget⟩

end Assembler

end TensorShader
