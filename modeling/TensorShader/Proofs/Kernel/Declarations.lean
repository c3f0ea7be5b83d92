import TensorShader.Proofs.Kernel.Reads
import TensorShader.Proofs.Operator.Samplers

/-! The declarations in the sources of kernels. The samplers, the fetches from them, the layer of
the output and the functions that `main` calls come from different places, and fit together. -/

namespace TensorShader

open Shader (Declares Token bodyTokens called declarations declaredName? isFunction uniformTokens
  words)

/-- The layer of the output is chosen from outside if channels are layers. -/
def ChoosesLayer (packing : Packing) (ds : List (List Token)) : Prop :=
  match packing with
  | .plain => uniformTokens "int" "u_out_layer" ∈ ds
  | .channelMajor => "u_out_layer" ∉ words ds.flatten

instance (packing : Packing) (ds : List (List Token)) : Decidable (ChoosesLayer packing ds) :=
  match packing with
  | .plain => inferInstanceAs (Decidable (_ ∈ ds))
  | .channelMajor => inferInstanceAs (Decidable (¬_ ∈ words ds.flatten))

/-- The declarations of the source of a kernel fit together, and fit the kernel. -/
structure Kernel.Consistent (k : Kernel) (packing : Packing) (ds : List (List Token)) : Prop
    extends Samples packing (k.samplers.map (·.2)) ds where
  /-- Whatever is declared is declared once. -/
  unique : (ds.filterMap declaredName?).Nodup
  layer : ChoosesLayer packing ds
  /-- What `main` calls is defined before it. -/
  main : ∃ earlier main, ds = earlier ++ [main] ∧ isFunction main = true ∧
    declaredName? main = some "main" ∧ ∀ f ∈ called (bodyTokens main),
      ∃ d ∈ earlier, isFunction d = true ∧ declaredName? d = some f

theorem tokens_paragraph (s rest : String) :
    Shader.tokens ("\n" ++ s ++ "\n" ++ rest).toList =
      Shader.tokens s.toList ++ Shader.tokens rest.toList := by
  have hlist : ("\n" ++ s ++ "\n" ++ rest).toList = '\n' :: (s.toList ++ '\n' :: rest.toList) := by
    simp
  rw [hlist]
  exact Shader.scan_append s.toList (by decide) [] rest.toList

theorem Assembler.declares_paragraphs {fs : List Fragment} {dss : List (List (List Token))}
    {body : String} {ds : List (List Token)}
    (hfs : List.Forall₂ (fun f ds => Declares f.source ds) fs dss) (hbody : Declares body ds) :
    Declares (Assembler.paragraphs (fs.map (·.source) ++ [body])) (dss.flatten ++ ds) := by
  induction hfs with
  | nil =>
    refine ⟨?_, hbody.separate⟩
    show Shader.tokens ("\n" ++ body ++ "\n" ++ "").toList = ds.flatten
    rw [tokens_paragraph, hbody.tokens_eq]
    exact List.append_nil _
  | @cons f es fs dss hf _ ih =>
    refine ⟨?_, fun d hd => ?_⟩
    · show Shader.tokens ("\n" ++ f.source ++ "\n" ++
        Assembler.paragraphs (fs.map (·.source) ++ [body])).toList = _
      rw [tokens_paragraph, hf.tokens_eq, ih.tokens_eq]
      simp
    · rw [List.flatten_cons, List.append_assoc, List.mem_append] at hd
      exact hd.elim (hf.separate d) (ih.separate d)

namespace Operator

variable {k : Kernel} {packing : Packing} {lib front : List (List Token)} {ss : List (List Token)}

theorem samples_body {ds : List (List Token)} (h : ds.all (·.all isLocal) = true) :
    Samples packing [] ds := by
  refine samples_nil packing (List.all_eq_true.2 fun d hd => List.all_eq_true.2 fun t ht => ?_)
  have hlocal := List.all_eq_true.1 (List.all_eq_true.1 h d hd) t ht
  exact (Bool.and_eq_true_iff.1 hlocal).1

theorem choosesLayer_append {ds : List (List Token)} (hlib : ChoosesLayer packing lib)
    (h : ds.all (·.all isLocal) = true) : ChoosesLayer packing (lib ++ ds) := by
  cases packing with
  | plain => exact List.mem_append_left ds hlib
  | channelMajor =>
    have hlib : "u_out_layer" ∉ words lib.flatten := hlib
    show "u_out_layer" ∉ words (lib ++ ds).flatten
    rw [Shader.mem_words] at hlib ⊢
    rw [List.flatten_append, List.mem_append, not_or]
    refine ⟨hlib, fun hmem => ?_⟩
    obtain ⟨d, hd, hmem⟩ := List.mem_flatten.1 hmem
    have hlocal := List.all_eq_true.1 (List.all_eq_true.1 h d hd) _ hmem
    revert hlocal
    decide

/-- A body that calls functions of a library and has nothing to do with textures. -/
theorem consistent_append {fs : List String}
    (hsamples : Samples packing (k.samplers.map (·.2)) lib) (hlayer : ChoosesLayer packing lib)
    (hdefined : fs.all (fun f => lib.any fun d => isFunction d && declaredName? d = some f) = true)
    (hunique : ((lib ++ (front ++ [mainTokens ss])).filterMap declaredName?).Nodup)
    (hlocal : (front ++ [mainTokens ss]).all (·.all isLocal) = true)
    (hcalls : ss.flatMap called ⊆ fs) :
    k.Consistent packing (lib ++ (front ++ [mainTokens ss])) := by
  have hsamples := hsamples.append (samples_body hlocal)
  rw [List.append_nil] at hsamples
  refine ⟨hsamples, hunique, choosesLayer_append hlayer hlocal, lib ++ front, mainTokens ss,
    (List.append_assoc ..).symm, Shader.isFunction_functionTokens "void" "main" [] ss, rfl, ?_⟩
  rw [called_mainTokens]
  intro f hf
  obtain ⟨d, hd, h⟩ := List.any_eq_true.1 (List.all_eq_true.1 hdefined f (hcalls hf))
  exact ⟨d, List.mem_append_left front hd, by simpa using h⟩

theorem consistent_origin (out x : Shape) (hk : k.samplers.map (·.2) = ["texture_origin"])
    (hlocal : ∀ s ∈ ss, s.all isLocal = true)
    (hcalls : ss.flatMap called ⊆
      ["getOutputTensorPos", "getValueFromTensorPos_origin", "setOutput"]) :
    k.Consistent packing ((originDeclarations packing out x).flatten ++ [mainTokens ss]) := by
  have hmain : ([] ++ [mainTokens ss]).all (·.all isLocal) = true :=
    List.all_eq_true.2 (List.forall_mem_singleton.2 (isLocal_mainTokens hlocal))
  refine consistent_append (hk ▸ samples_origin packing out x) ?_ ?_ ?_ hmain hcalls
  · cases packing <;> exact of_decide_eq_true rfl
  · cases packing <;> rfl
  · cases packing <;> exact of_decide_eq_true rfl

theorem consistent_counter (out x y : Shape) (axis : Int)
    (hk : k.samplers.map (·.2) = ["texture_origin", "texture_counter"])
    (hlocal : ∀ s ∈ ss, s.all isLocal = true)
    (hcalls : ss.flatMap called ⊆ ["getOutputTensorPos", "getValueFromTensorPos_origin",
      "formatNCHW_counter", "getValueFromTensorPos_counter", "setOutput"]) :
    k.Consistent packing ((counterDeclarations packing out x y).flatten ++
      ([axisTokens axis] ++ [mainTokens ss])) := by
  have haxis : (axisTokens axis).all isLocal = true := by
    cases axis <;> rfl
  have hmain : ([axisTokens axis] ++ [mainTokens ss]).all (·.all isLocal) = true := by
    simp [haxis, isLocal_mainTokens hlocal]
  refine consistent_append (hk ▸ samples_counter packing out x y) ?_ ?_ ?_ hmain hcalls
  · cases packing <;> exact of_decide_eq_true rfl
  · cases packing <;> rfl
  · cases packing <;> exact of_decide_eq_true rfl

variable {op : RuledOperator} {config : Config} {params : Params} {shapes : OperandShapes}

/-- Whatever the settings, parameters and shapes of a kernel are, the declarations behind the header
of its source are consistent. -/
theorem kernel_consistent (hop : op ∈ builtins)
    (h : (Assembler.ofConfig config).assemble op params shapes = .ok k) :
    ∃ rest, k.source = Assembler.header config ++ rest ∧
      k.Consistent config.packing (declarations rest) := by
  obtain ⟨hparams, t, ht, fs, hfs, body, hbody, rfl⟩ := Assembler.assemble_eq_ok_iff.1 h
  have hparams := Assembler.checkParams_eq_ok_iff.1 hparams
  obtain ⟨-, hout, -⟩ := Assembler.output_of_layouts ht
  obtain ⟨x, -, hxpacking, hx⟩ := operand_layout hop ht (origin_mem_inputs hop)
  refine ⟨_, rfl, ?_⟩
  rcases mem_builtins hop with ⟨name, a, rfl⟩ | rfl | rfl
  · have hmem : ⟨"Y", "counter"⟩ ∈ (elementwise name a).descriptor.inputs := by simp [elementwise]
    obtain ⟨y, -, hypacking, hy⟩ := operand_layout hop ht hmem
    obtain rfl := hfs.unique (provides_elementwise name a hx hy)
    obtain ⟨axis, -, -, rfl⟩ := (writes_elementwise_iff hx).1 hbody
    rw [(Assembler.declares_paragraphs (forall₂_counterDeclarations hout hxpacking hypacking)
      (declares_elementwiseBody axis _ a)).declarations_eq]
    exact consistent_counter t.output.shape x.shape y.shape axis rfl
      (isLocal_elementwiseStatements _ a)
      (List.Perm.of_eq (called_elementwiseStatements _ a)).subset
  · obtain ⟨factor, hfactor⟩ := find?_of_contains (hparams "scale" (by simp [scale]))
    obtain ⟨bias, hbias⟩ := find?_of_contains (hparams "bias" (by simp [scale]))
    obtain ⟨after, hafter⟩ := find?_of_contains (hparams "bias_after_scale" (by simp [scale]))
    obtain rfl := hfs.unique (provides_scale hx)
    obtain ⟨s, b, -, -, rfl⟩ := (writes_scale_iff hfactor hbias hafter).1 hbody
    rw [(Assembler.declares_paragraphs (forall₂_originDeclarations hout hxpacking)
      (declares_scaleBody _ s b)).declarations_eq]
    exact consistent_origin t.output.shape x.shape rfl (isLocal_scaleStatements _ s b)
      (List.Perm.of_eq (called_scaleStatements _ s b)).subset
  · obtain rfl := hfs.unique (provides_split hx)
    obtain ⟨axis, offset, -, -, hslice, rfl⟩ := (writes_split_iff hx).1 hbody
    obtain ⟨n, rfl⟩ := Int.eq_ofNat_of_zero_le hslice.start
    rw [(Assembler.declares_paragraphs (forall₂_originDeclarations hout hxpacking)
      (declares_splitBody (.ofInt axis) n)).declarations_eq]
    refine consistent_origin t.output.shape x.shape rfl (isLocal_splitStatements _ n) ?_
    rw [called_splitStatements]
    decide

/-- The kernel of the second half of the channels declares its only sampler, without layers. -/
theorem kernel_consistent_half :
    split ∈ builtins ∧ ∃ k rest,
      (Assembler.ofConfig smallDevice).assemble split halfParams halfShapes = .ok k ∧
        k.source = Assembler.header smallDevice ++ rest ∧
        k.Consistent .channelMajor (declarations rest) := by
  have hop : split ∈ builtins := by simp [builtins]
  obtain ⟨k, hk⟩ := (exists_kernel_iff (a := .ofConfig smallDevice) hop .refl).2 accepts_half
  obtain ⟨rest, hsource, hconsistent⟩ := kernel_consistent hop hk
  exact ⟨hop, k, rest, hk, hsource, hconsistent⟩

end Operator

end TensorShader
