import TensorShader.Proofs.Addressing.Sources
import TensorShader.Proofs.Plan.Resolve

/-! The fragments of a plan. There is one for each instance, in order, unless an operand has no
layout or a template fails: that the instances can be looked up is settled when the plan is made. A
fragment depends on the layouts of the output and of its own operand, and on no other. -/

namespace TensorShader.Library

open Subroutine (Instance)

variable {lib : Library} {t t' : LayoutTable} {requests is : List Instance} {p : Plan}
  {fs fs' : List Fragment} {key : String} {e : Error}

/-- `lib.HasGap t p e`: the error `e` is about an operand of the plan that the table has no layout
for, or about a template that fails for an instance of the plan. -/
inductive HasGap (lib : Library) (t : LayoutTable) (p : Plan) : Error → Prop
  | unbound {i : Instance} {key : String} : i ∈ p.instances → i.binding = some key →
      t.inputs.find? key = none → HasGap lib t p (.unboundOperand key)
  | template {i : Instance} {s : Subroutine} {l : LayoutRecord} {fault : Template.Fault} :
      i ∈ p.instances → lib.lookup i = .ok s → t.layoutOf i = .ok l →
      Template.render s.template (i.context l t.output) = .error fault →
      HasGap lib t p (.unrenderable i.ident (.template fault))

/-- The fragments that are specialized for an operand or for none, in order. -/
def fragmentsFor (key : String) (fs : List Fragment) : List Fragment :=
  fs.filter fun f => f.inst.binding = some key ∨ f.inst.binding = none

theorem map_inst_of_render (h : lib.render p t = .ok fs) : fs.map (·.inst) = p.instances := by
  have hall : List.Forall₂ (fun i f => f.inst = i) p.instances fs :=
    (mapM_eq_ok_iff.mp h).imp fun _ _ hf => (fragment_eq_ok_iff.mp hf).1
  clear h
  generalize p.instances = is at hall
  induction hall with
  | nil => rfl
  | cons hf _ ih => rw [List.map_cons, hf, ih]

theorem hasGap_of_render (hp : lib.resolve requests = .ok p) (h : lib.render p t = .error e) :
    lib.HasGap t p e := by
  obtain ⟨i, hi, hfragment⟩ := mapM_eq_error h
  obtain ⟨s, hs⟩ := exists_lookup_of_mem hp hi
  rcases fragment_eq_error hs hfragment with ⟨key, hkey, hnone, rfl⟩ | ⟨l, fault, hl, hfault, rfl⟩
  · exact .unbound hi hkey hnone
  · exact .template hi hs hl hfault

/-- Tables that agree on the output and on an operand agree on what is specialized for the operand
or for none. -/
theorem fragment_eq_of_agree {i : Instance} (hout : t.output = t'.output)
    (hkey : t.inputs.find? key = t'.inputs.find? key)
    (hi : i.binding = some key ∨ i.binding = none) : lib.fragment t i = lib.fragment t' i := by
  refine fragment_congr hout ?_
  rcases hi with hi | hi
  · simp only [LayoutTable.layoutOf, LayoutTable.get, hi, hkey]
  · simp only [LayoutTable.layoutOf, hi, hout]

theorem fragmentsFor_eq (hout : t.output = t'.output)
    (hkey : t.inputs.find? key = t'.inputs.find? key) (h : is.mapM (lib.fragment t) = .ok fs)
    (h' : is.mapM (lib.fragment t') = .ok fs') : fragmentsFor key fs = fragmentsFor key fs' := by
  have hall := mapM_eq_ok_iff.mp h
  have hall' := mapM_eq_ok_iff.mp h'
  clear h h'
  induction hall generalizing fs' with
  | nil =>
    cases hall'
    rfl
  | @cons i f is fs hf _ ih =>
    cases hall' with
    | @cons _ f' _ fs' hf' hrest' =>
      have hinst := (fragment_eq_ok_iff.mp hf).1
      have hinst' := (fragment_eq_ok_iff.mp hf').1
      have hrest : fragmentsFor key fs = fragmentsFor key fs' := ih hrest'
      unfold fragmentsFor at *
      rw [List.filter_cons, List.filter_cons, hinst, hinst', hrest]
      by_cases hi : i.binding = some key ∨ i.binding = none
      · have hsame : f = f' :=
          Except.ok.inj (hf.symm.trans ((fragment_eq_of_agree hout hkey hi).trans hf'))
        rw [hsame]
      · rw [if_neg (by simpa using hi), if_neg (by simpa using hi)]

/-- A plan has a fragment for each of its instances, in order, or else an operand of it has no layout
or a template of it fails. Tables that agree on the output and on an operand have the same fragments
for that operand, and the same for no operand. -/
theorem render_complete_local (h : lib.resolve requests = .ok p) (t : LayoutTable) :
    (∀ fs, lib.render p t = .ok fs →
      fs.map (fun f => (f.inst, f.ident)) = p.instances.map fun i => (i, i.ident)) ∧
    (∀ e, lib.render p t = .error e → lib.HasGap t p e) ∧
    ∀ t' key, t.output = t'.output → t.inputs.find? key = t'.inputs.find? key →
      ∀ fs fs', lib.render p t = .ok fs → lib.render p t' = .ok fs' →
        fragmentsFor key fs = fragmentsFor key fs' := by
  refine ⟨fun fs hfs => ?_, fun e he => hasGap_of_render h he,
    fun t' key hout hkey fs fs' hfs hfs' => fragmentsFor_eq hout hkey hfs hfs'⟩
  rw [← map_inst_of_render hfs, List.map_map]
  rfl

/-- The textures of two operands. -/
def texturePlan : Plan := ⟨[⟨"textureDecl", some "x"⟩, ⟨"textureDecl", some "y"⟩]⟩

/-- A layout for the first of them. -/
def firstLayouts : LayoutTable := (LayoutTable.ofOutput sampleLayout).bind "x" sampleLayout

theorem render_texturePlan (l : LayoutRecord) :
    addressing.render texturePlan (firstLayouts.bind "y" l) =
      .ok [textureFragment "x" sampleLayout, textureFragment "y" l] := by
  have hx : (firstLayouts.bind "y" l).get "x" = .ok sampleLayout := rfl
  have hy : (firstLayouts.bind "y" l).get "y" = .ok l := rfl
  rw [render, texturePlan, List.mapM_cons, List.mapM_cons, fragment_textureDecl hx,
    fragment_textureDecl hy]
  rfl

theorem render_texturePlan_first :
    addressing.render texturePlan firstLayouts = .error (.unboundOperand "y") := by
  have hx : firstLayouts.get "x" = .ok sampleLayout := rfl
  rw [render, texturePlan, List.mapM_cons, List.mapM_cons, fragment_textureDecl hx]
  rfl

/-- What is written for the first operand stays when the second gets a texture of the other kind,
though what is written for the second does not. Without a layout for the second there is nothing. -/
theorem render_complete_local_textures :
    addressing.resolve texturePlan.instances = .ok texturePlan ∧
      (∃ fs fs', addressing.render texturePlan (firstLayouts.bind "y" sampleLayout) = .ok fs ∧
        addressing.render texturePlan (firstLayouts.bind "y" wideLayout) = .ok fs' ∧ fs ≠ fs' ∧
        fragmentsFor "x" fs = [textureFragment "x" sampleLayout] ∧
        fragmentsFor "x" fs = fragmentsFor "x" fs') ∧
      addressing.HasGap firstLayouts texturePlan (.unboundOperand "y") := by
  have hp : addressing.resolve texturePlan.instances = .ok texturePlan := rfl
  have hplain := render_texturePlan sampleLayout
  have hwide := render_texturePlan wideLayout
  have hlocal := (render_complete_local hp (firstLayouts.bind "y" sampleLayout)).2.2
    (firstLayouts.bind "y" wideLayout) "x" rfl rfl _ _ hplain hwide
  exact ⟨hp, ⟨_, _, hplain, hwide, by decide, rfl, hlocal⟩,
    (render_complete_local hp firstLayouts).2.1 _ render_texturePlan_first⟩

end TensorShader.Library
