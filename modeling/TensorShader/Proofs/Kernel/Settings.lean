import TensorShader.Proofs.Kernel.Acceptance
import TensorShader.Proofs.Kernel.Stages

/-! What each setting of an assembler acts on. The version and the precision act on the header only,
and the limit only on whether a texture is too large. What fits on one wide texture fits on layers. -/

namespace TensorShader

/-- Whether an error says that a texture is larger than the device allows. -/
def Error.isTooLarge : Error → Bool
  | .textureTooLarge _ _ _ => true
  | _ => false

/-- Two results are the same but for the headers of sources: the same error, or kernels with the same
text after the header of the settings, and with the same fields otherwise. -/
inductive SameButHeader (c c' : Config) : Except Error Kernel → Except Error Kernel → Prop where
  | error (e : Error) : SameButHeader c c' (.error e) (.error e)
  | ok (k : Kernel) (text : String) :
    SameButHeader c c' (.ok { k with source := Assembler.header c ++ text })
      (.ok { k with source := Assembler.header c' ++ text })

/-- What is the same up to some step is the same but for headers if the rest is. -/
theorem SameButHeader.bind {α : Type} {c c' : Config} {x : Except Error α}
    {f g : α → Except Error Kernel} (h : ∀ a, x = .ok a → SameButHeader c c' (f a) (g a)) :
    SameButHeader c c' (x >>= f) (x >>= g) := by
  cases x with
  | error e => exact .error e
  | ok a => exact h a rfl

/-- A kernel under one of the settings determines that under the other. -/
theorem SameButHeader.exists_text {c c' : Config} {x y : Except Error Kernel} {k : Kernel}
    (h : SameButHeader c c' x y) (hx : x = .ok k) :
    ∃ text, k.source = Assembler.header c ++ text ∧
      y = .ok { k with source := Assembler.header c' ++ text } := by
  cases h with
  | error e => cases hx
  | ok k text =>
    cases hx
    exact ⟨text, rfl, rfl⟩

/-- Under settings with the same packing a run has the same result but for headers, if they also
have the same limit, or if the limit grows and no texture was too large. -/
structure Config.ActsLocally (run : Config → Except Error Kernel) : Prop where
  same_limit : ∀ c c' : Config, c.packing = c'.packing → c.maxTextureSize = c'.maxTextureSize →
    SameButHeader c c' (run c) (run c')
  larger_limit : ∀ c c' : Config, c.packing = c'.packing → c.maxTextureSize ≤ c'.maxTextureSize →
    (∀ e, run c = .error e → e.isTooLarge = false) → SameButHeader c c' (run c) (run c')

/-- Layers are as wide as one channel, and a wide texture is as wide as all of them. -/
theorem Config.Admits.plain {c : Config} {s : Shape}
    (h : { c with packing := .channelMajor }.Admits s) : { c with packing := .plain }.Admits s := by
  have hle : s.dims.w ≤ s.dims.w * s.dims.c := Nat.le_mul_of_pos_right _ (h.nonempty .c)
  exact ⟨h.nonempty, h.height_lt, lt_of_le_of_lt hle h.width_lt, h.height_le,
    le_trans hle h.width_le⟩

namespace Assembler

variable {lib : Library} {c c' : Config} {d : Descriptor} {params : Params}
  {shapes : OperandShapes} {bad : Error → Prop}

theorem layout_eq_of_limit_le (hpacking : c.packing = c'.packing)
    (hle : c.maxTextureSize ≤ c'.maxTextureSize) {s : Shape}
    (h : Avoids (·.isTooLarge) ((Assembler.mk c lib).layout s)) :
    (Assembler.mk c' lib).layout s = (Assembler.mk c lib).layout s := by
  unfold layout at h ⊢
  refine bind_eq_of_avoids (fun _ => by rw [hpacking]) (fun l hl => ?_) h
  have hlimit : c.maxTextureSize.toNat ≤ c'.maxTextureSize.toNat := hle
  dsimp only at hl ⊢
  by_cases hlarge :
      c.maxTextureSize.toNat < l.width.toNat ∨ c.maxTextureSize.toNat < l.height.toNat
  · rw [if_pos hlarge] at hl
    exact absurd rfl (hl _ rfl)
  · rw [if_neg hlarge, if_neg (by omega)]

/-- If layouts are the same but for errors of a kind, then so are the layouts of operands. -/
theorem layouts_eq_of_avoids
    (hlayout : ∀ s, Avoids bad ((Assembler.mk c lib).layout s) →
      (Assembler.mk c' lib).layout s = (Assembler.mk c lib).layout s)
    (h : Avoids bad ((Assembler.mk c lib).layouts d shapes)) :
    (Assembler.mk c' lib).layouts d shapes = (Assembler.mk c lib).layouts d shapes := by
  have hbind (t : LayoutTable) (o : Operand)
      (h : Avoids bad ((Assembler.mk c lib).bindOperand d shapes t o)) :
      (Assembler.mk c' lib).bindOperand d shapes t o =
        (Assembler.mk c lib).bindOperand d shapes t o := by
    unfold bindOperand at h ⊢
    split at h
    · rfl
    · rw [hlayout _ fun e he => h e (map_eq_error_iff.mpr he)]
  unfold layouts at h ⊢
  exact bind_eq_of_avoids (hlayout shapes.output) (fun _ => foldlM_eq_of_avoids hbind) h

/-- If layouts are the same but for errors of a kind, then so are kernels but for headers. -/
theorem assemble_sameButHeader {op : Operator}
    (hlayout : ∀ s, Avoids bad ((Assembler.mk c lib).layout s) →
      (Assembler.mk c' lib).layout s = (Assembler.mk c lib).layout s)
    (h : Avoids bad ((Assembler.mk c lib).assemble op params shapes)) :
    SameButHeader c c' ((Assembler.mk c lib).assemble op params shapes)
      ((Assembler.mk c' lib).assemble op params shapes) := by
  rw [assemble_eq_stages] at h
  rw [assemble_eq_stages, assemble_eq_stages]
  refine .bind fun _ hparams => ?_
  rw [hparams] at h
  have ht : Avoids bad ((Assembler.mk c lib).layouts op.descriptor shapes) :=
    fun e he => h e (by rw [he]; rfl)
  rw [layouts_eq_of_avoids hlayout ht]
  exact .bind fun t _ => .bind fun text _ =>
    .ok ⟨op.descriptor.name, text, op.descriptor.inputNames, _, t.output⟩ text

end Assembler

namespace Operator

open Library

/-- The settings of one assembler act on what they are for. For every operator, whatever function
makes its body, the version and the precision show in the header only, and a larger limit in nothing
but textures that were too large. An operator that comes with the library has a kernel for layers if
it has one for wide textures. -/
theorem settings_act_locally (lib : Library) (params : Params) (shapes : OperandShapes) :
    (∀ op : Operator, Config.ActsLocally fun c =>
      (Assembler.mk c lib).assemble op params shapes) ∧
    (addressing.Extended lib → ∀ op ∈ builtins, ∀ c : Config,
      (∃ k, (Assembler.mk { c with packing := .channelMajor } lib).assemble op params shapes =
        .ok k) →
      ∃ k, (Assembler.mk { c with packing := .plain } lib).assemble op params shapes = .ok k) := by
  refine ⟨fun op => ⟨fun c c' hpacking hlimit => ?_, fun c c' hpacking hle h => ?_⟩,
    fun hlib op hop c hk => ?_⟩
  · refine Assembler.assemble_sameButHeader (fun s _ => ?_) fun _ _ => not_false
    rw [Assembler.layout, Assembler.layout, hpacking, hlimit]
  · exact Assembler.assemble_sameButHeader (fun _ => Assembler.layout_eq_of_limit_le hpacking hle)
      fun e he => by simp [h e he]
  · obtain ⟨hparams, ⟨hout, hoperands⟩, haccepts⟩ := (exists_kernel_iff hop hlib).1 hk
    refine (exists_kernel_iff hop hlib).2 ⟨hparams, ⟨hout.plain, fun o ho => ?_⟩, haccepts⟩
    obtain ⟨s, hs, hadmits⟩ := hoperands o ho
    exact ⟨s, hs, hadmits.plain⟩

/-- The settings of a device with larger textures than the small one, and a lower precision. -/
def largeDevice : Config := { smallDevice with precision := .medium, maxTextureSize := 4096 }

/-- The kernel of the second half of the channels has the same text on the large device as on the
small one, and there is one for layers. -/
theorem settings_act_locally_half :
    (∃ k text, (Assembler.ofConfig smallDevice).assemble split halfParams halfShapes = .ok k ∧
      k.source = Assembler.header smallDevice ++ text ∧
      (Assembler.ofConfig largeDevice).assemble split halfParams halfShapes =
        .ok { k with source := Assembler.header largeDevice ++ text }) ∧
    ∃ k, (Assembler.ofConfig { smallDevice with packing := .plain }).assemble split halfParams
      halfShapes = .ok k := by
  have hop : split ∈ builtins := by simp [builtins]
  obtain ⟨k, hk⟩ := (exists_kernel_iff (a := Assembler.ofConfig smallDevice) hop .refl).2 accepts_half
  obtain ⟨hlocal, hlayers⟩ := settings_act_locally addressing halfParams halfShapes
  have hsame := (hlocal split).larger_limit smallDevice largeDevice rfl (by decide)
    fun e he => by cases hk.symm.trans he
  obtain ⟨text, hsource, hlarge⟩ := hsame.exists_text hk
  exact ⟨⟨k, text, hk, hsource, hlarge⟩, hlayers .refl split hop smallDevice ⟨k, hk⟩⟩

end Operator

end TensorShader
