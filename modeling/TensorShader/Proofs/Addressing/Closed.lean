import TensorShader.Proofs.Addressing.Broadcast
import TensorShader.Proofs.Addressing.Declarations
import TensorShader.Proofs.Plan.Ident
import TensorShader.Proofs.Plan.Layered

/-! The texture addressing library is closed. Whatever is requested for whatever operands, there is
a plan with fragments, and a name of the library that occurs in a fragment is declared by one
fragment alone, which does not come later. -/

namespace TensorShader.Library

open Assembler (samplerName)
open Shader (Declares blockTokens declaredName? declaredNames functionTokens words)
open Subroutine (Instance)
open Template (isNameChar)

/-- The identifiers of instances of the library, and the names of textures. -/
def IsLibraryName (w : String) : Prop :=
  (∃ i, addressing.Fits i ∧ w = i.ident) ∨ ∃ key, w = samplerName key

/-- The name that the fragment of an instance declares: its identifier, except that a texture is
named for its operand. -/
def introducedName (i : Instance) : String :=
  Instance.ident ⟨if i.name = "textureDecl" then "texture" else i.name, i.binding⟩

/-- Whether a word looks like a name of the library: it is the name of an unbound subroutine, or
starts with that of a bound one or of textures, and an underscore. -/
def hasLibraryForm (w : String) : Bool :=
  "texture_".toList.isPrefixOf w.toList || addressing.entries.any fun e =>
    if e.2.bound then (e.1 ++ "_").toList.isPrefixOf w.toList else w = e.1

/-- Of the names of the library, the fragment of an instance declares its own, once, and mentions
besides it those of needed instances only. -/
structure Introduces (i : Instance) (f : Fragment) : Prop where
  declared : ∀ w, IsLibraryName w →
    (declaredNames f.source).count w = if w = introducedName i then 1 else 0
  mentioned : ∀ w, .word w ∈ Shader.tokens f.source.toList → IsLibraryName w →
    w = introducedName i ∨ ∃ j, addressing.Needs i j ∧ w = introducedName j

variable {requests is : List Instance} {fs : List Fragment} {i j : Instance} {f : Fragment}
  {t : LayoutTable} {key w : String} {l : LayoutRecord}

theorem samplerName_eq (key : String) :
    samplerName key = introducedName ⟨"textureDecl", some key⟩ := by
  apply String.toList_inj.1
  simp [samplerName, introducedName, Instance.ident]

theorem hasLibraryForm_of_isLibraryName (h : IsLibraryName w) : hasLibraryForm w = true := by
  rcases h with ⟨i, ⟨s, hs, hbound⟩, rfl⟩ | ⟨key, rfl⟩
  · refine Bool.or_eq_true_iff.2 (.inr (List.any_eq_true.2 ⟨_, mem_entries_of_find? hs, ?_⟩))
    unfold Instance.ident
    cases hbinding : i.binding with
    | none =>
      rw [hbinding] at hbound
      simp [← hbound]
    | some key =>
      rw [hbinding] at hbound
      simp [← hbound, List.isPrefixOf_iff_prefix, String.toList_append]
  · refine Bool.or_eq_true_iff.2 (.inl (List.isPrefixOf_iff_prefix.2 ?_))
    rw [samplerName, String.toList_append]
    exact List.prefix_append _ _

theorem layered_addressing :
    addressing.Layered fun name => addressing.entries.findIdx (·.1 = name) := by
  have hall : ∀ e ∈ addressing.entries, ∀ dep ∈ e.2.deps,
      addressing.entries.findIdx (·.1 = dep) < addressing.entries.findIdx (·.1 = e.1) ∧
        (addressing.find? dep).any (fun t => !t.bound || e.2.bound) = true := by decide
  intro name s hs dep hdep
  obtain ⟨hlower, hany⟩ := hall _ (mem_entries_of_find? hs) dep hdep
  obtain ⟨t, ht, hbound⟩ := (Option.any_eq_true _ _).1 hany
  refine ⟨hlower, t, ht, fun hb => ?_⟩
  simpa [hb] using hbound

/-- The instances of the library are those of its seven subroutines. -/
theorem fits_cases (h : addressing.Fits i) :
    i ∈ [⟨"transferFromNHWCtoNCHW", none⟩, ⟨"getOutputTensorPos", none⟩, ⟨"setOutput", none⟩] ∨
      ∃ key, i ∈ [⟨"textureDecl", some key⟩, ⟨"getTexturePos", some key⟩,
        ⟨"getValueFromTensorPos", some key⟩, ⟨"formatNCHW", some key⟩] := by
  obtain ⟨s, hs, hbound⟩ := h
  obtain ⟨name, binding⟩ := i
  have hnames : ∀ e ∈ addressing.entries, if e.2.bound
      then e.1 ∈ ["textureDecl", "getTexturePos", "getValueFromTensorPos", "formatNCHW"]
      else e.1 ∈ ["transferFromNHWCtoNCHW", "getOutputTensorPos", "setOutput"] := by decide
  have hname := hnames _ (mem_entries_of_find? hs)
  rw [← hbound] at hname
  cases binding with
  | none => exact .inl (by simpa using hname)
  | some key => exact .inr ⟨key, by simpa using hname⟩

theorem introducedName_inj (hi : addressing.Fits i) (hj : addressing.Fits j)
    (h : introducedName i = introducedName j) : i = j := by
  have hnames : ∀ name ∈ addressing.entries.map Prod.fst, '_' ∉ name.toList ∧ name ≠ "texture" := by
    decide
  obtain ⟨hiplain, hitexture⟩ := hnames i.name hi.name_mem
  obtain ⟨hjplain, hjtexture⟩ := hnames j.name hj.name_mem
  -- neither of the two names has an underscore, at which the other could be cut
  have hplain {i : Instance} {front text : String} (hi : '_' ∉ i.name.toList) :
      (if i.name = "textureDecl" then "texture" else i.name) ≠ front ++ "_" ++ text := by
    intro hname
    have hcut : '_' ∈ (front ++ "_" ++ text).toList := by simp
    rw [← hname] at hcut
    split at hcut
    · revert hcut
      decide
    · exact hi hcut
  have heq : (⟨if i.name = "textureDecl" then "texture" else i.name, i.binding⟩ : Instance) =
      ⟨if j.name = "textureDecl" then "texture" else j.name, j.binding⟩ := by
    by_contra hne
    rcases Instance.shadows_of_ident_eq hne h with ⟨text, hname, -⟩ | ⟨text, hname, -⟩
    · exact hplain hjplain hname
    · exact hplain hiplain hname
  obtain ⟨hname, hbinding⟩ := Instance.mk.inj heq
  have hsame : i.name = j.name := by
    split at hname <;> split at hname
    · simp_all
    · exact absurd hname.symm hjtexture
    · exact absurd hname hitexture
    · exact hname
  cases i
  cases j
  simp_all

theorem not_mem_of_all {ws : List String} (h : ws.all (!hasLibraryForm ·) = true)
    (hw : hasLibraryForm w = true) : w ∉ ws := by
  intro hmem
  have hnot := List.all_eq_true.1 h w hmem
  rw [hw] at hnot
  cases hnot

theorem introduces_of_declares {front : List (List Shader.Token)} {d : List Shader.Token}
    {needed : List Instance} (h : Declares f.source (front ++ [d]))
    (hname : declaredName? d = some (introducedName i))
    (hfront : (words front.flatten).all (!hasLibraryForm ·) = true)
    (hneeds : ∀ j ∈ needed, addressing.Needs i j)
    (hwords : ∀ w ∈ words d, hasLibraryForm w = true →
      w = introducedName i ∨ w ∈ needed.map introducedName) : Introduces i f := by
  have hfront : ∀ w, IsLibraryName w → .word w ∉ front.flatten := fun w hw hmem =>
    not_mem_of_all hfront (hasLibraryForm_of_isLibraryName hw) (Shader.mem_words.2 hmem)
  refine ⟨fun w hw => ?_, fun w hmem hw => ?_⟩
  · have hother : (front.filterMap declaredName?).count w = 0 := by
      refine List.count_eq_zero.2 fun hmem => ?_
      obtain ⟨e, he, hdeclared⟩ := List.mem_filterMap.1 hmem
      exact hfront w hw (List.mem_flatten_of_mem he (Shader.mem_of_declaredName? hdeclared))
    rw [declaredNames, h.declarations_eq, List.filterMap_append, List.count_append, hother]
    simp only [List.filterMap_cons, hname, List.filterMap_nil, List.count_singleton, Nat.zero_add,
      beq_iff_eq, eq_comm (a := w)]
  · rw [h.tokens_eq, List.flatten_append, List.mem_append] at hmem
    have hd : .word w ∈ d := by simpa using hmem.resolve_left (hfront w hw)
    rcases hwords w (Shader.mem_words.2 hd) (hasLibraryForm_of_isLibraryName hw) with h | h
    · exact .inl h
    · obtain ⟨j, hj, rfl⟩ := List.mem_map.1 h
      exact .inr ⟨j, hneeds j hj, rfl⟩

/-- A fragment that defines a function and calls functions of needed instances only. -/
theorem introduces_function {front : List (List Shader.Token)} {type : String}
    {params : List Shader.Token} {ss : List (List Shader.Token)} {needed : List Instance}
    (h : Declares f.source (front ++ [functionTokens type (introducedName i) params ss]))
    (hfront : (words front.flatten).all (!hasLibraryForm ·) = true)
    (hneeds : ∀ j ∈ needed, addressing.Needs i j)
    (hwords : ∀ w ∈ type :: words (params ++ blockTokens ss), hasLibraryForm w = true →
      w ∈ needed.map introducedName) : Introduces i f := by
  refine introduces_of_declares h rfl hfront hneeds fun w hw hform => ?_
  rw [Shader.words_functionTokens, List.mem_cons, List.mem_cons] at hw
  rcases hw with rfl | rfl | hw
  · exact .inr (hwords _ List.mem_cons_self hform)
  · exact .inl rfl
  · exact .inr (hwords w (List.mem_cons_of_mem _ hw) hform)

/-- What a text mentions can be computed, except for the key of an operand. -/
theorem mem_needed_of_all {ws : List String} {needed : List Instance}
    (h : ws.all (fun w => !hasLibraryForm w || needed.any (introducedName · = w)) = true) :
    ∀ w ∈ ws, hasLibraryForm w = true → w ∈ needed.map introducedName := by
  intro w hw hform
  have hneeded := List.all_eq_true.1 h w hw
  rw [hform, Bool.not_true, Bool.false_or] at hneeded
  simpa using hneeded

/-- The limits of clamping hold no words. -/
theorem words_clamp (limits : Nchw Int) :
    words (intParams ["n", "c", "h", "w"] ++ blockTokens (clampStatements limits)) =
      ["int", "n", "int", "c", "int", "h", "int", "w", "return", "ivec4", "min", "n", "min", "c",
        "min", "h", "min", "w"] := by
  have hlimit (i : Int) : (Shader.intTokens i).filterMap Shader.Token.word? = [] :=
    Shader.words_intTokens i
  simp [words, blockTokens, clampStatements, returnTokens, minTokens, intParams, listTokens,
    Shader.callTokens, Shader.Token.word?, List.filterMap_cons, hlimit]

theorem introduces_transfer :
    Introduces ⟨"transferFromNHWCtoNCHW", none⟩ transferFragment := by
  have h : Declares transferFragment.source ([] ++ [transferTokens]) := declares_transfer
  exact introduces_function h rfl (List.forall_mem_nil _) (mem_needed_of_all rfl)

theorem introduces_setOutput : Introduces ⟨"setOutput", none⟩ setOutputFragment := by
  have h : Declares setOutputFragment.source ([[.word "out", .word "vec4", .word "outColor",
    .symbol ';']] ++ [setOutputTokens]) := declares_setOutput
  exact introduces_function h rfl (List.forall_mem_nil _) (mem_needed_of_all rfl)

theorem introduces_position (out : LayoutRecord) :
    Introduces ⟨"getOutputTensorPos", none⟩ (positionFragment out) := by
  have hneeds : addressing.Needs ⟨"getOutputTensorPos", none⟩ ⟨"transferFromNHWCtoNCHW", none⟩ :=
    ⟨_, _, rfl, List.mem_cons_self, rfl, rfl⟩
  refine introduces_function (declares_position out) ?_ (List.forall_mem_singleton.2 hneeds)
    (mem_needed_of_all ?_)
  · cases out.packing <;> rfl
  · cases out.packing <;> rfl

section Bound

variable (hkey : key.toList.all isNameChar = true) (l : LayoutRecord)
include hkey

theorem introduces_texture :
    Introduces ⟨"textureDecl", some key⟩ (textureFragment key l) := by
  have h : Declares (textureFragment key l).source ([] ++ _) := declares_texture hkey l
  refine introduces_of_declares h (congrArg some (samplerName_eq key)) rfl
    (List.forall_mem_nil _) ?_
  have hsampler : hasLibraryForm l.sampler = false := by
    unfold LayoutRecord.sampler
    cases l.packing <;> rfl
  intro w hw hform
  have hw : w ∈ ["uniform", l.sampler, samplerName key] := hw
  simp only [List.mem_cons, List.not_mem_nil, or_false] at hw
  rcases hw with rfl | rfl | rfl
  · exact absurd hform (by decide)
  · rw [hsampler] at hform
    cases hform
  · exact .inl (samplerName_eq key)

theorem introduces_texel :
    Introduces ⟨"getTexturePos", some key⟩ (texelFragment key l) := by
  have h : Declares (texelFragment key l).source ([] ++ _) := declares_texel hkey l
  refine introduces_function h rfl (List.forall_mem_nil _) (mem_needed_of_all ?_)
  cases l.packing <;> rfl

theorem introduces_clamp :
    Introduces ⟨"formatNCHW", some key⟩ (clampFragment key l) := by
  have h : Declares (clampFragment key l).source ([] ++ _) := declares_clamp hkey l
  refine introduces_function h rfl (List.forall_mem_nil _) (mem_needed_of_all ?_)
  rw [words_clamp]
  rfl

theorem introduces_value :
    Introduces ⟨"getValueFromTensorPos", some key⟩ (valueFragment key l) := by
  have hneeds : ∀ j ∈ ([⟨"textureDecl", some key⟩, ⟨"getTexturePos", some key⟩] : List Instance),
      addressing.Needs ⟨"getValueFromTensorPos", some key⟩ j := by
    intro j hj
    simp only [List.mem_cons, List.not_mem_nil, or_false] at hj
    rcases hj with rfl | rfl
    · exact ⟨_, _, rfl, List.mem_cons_self, rfl, rfl⟩
    · exact ⟨_, _, rfl, List.mem_cons_of_mem _ List.mem_cons_self, rfl, rfl⟩
  have h : Declares (valueFragment key l).source ([] ++ _) := declares_value hkey l
  refine introduces_function h rfl hneeds fun w hw hform => ?_
  have hsplit : w ∈ ["float", "int", "n", "int", "c", "int", "h", "int", "w", "ivec3", "pos"] ++
      Instance.ident ⟨"getTexturePos", some key⟩ ::
        (["n", "c", "h", "w", "return", "texelFetch"] ++
          samplerName key :: (words (coordTokens l.packing) ++ ["r"])) := by
    revert hw
    cases l.packing <;> exact id
  -- between the words of the language stand the names of two needed instances
  rcases List.mem_append.1 hsplit with hw | hw
  · exact absurd hw (not_mem_of_all rfl hform)
  rcases List.mem_cons.1 hw with rfl | hw
  · exact List.mem_map_of_mem (List.mem_cons_of_mem _ List.mem_cons_self)
  rcases List.mem_append.1 hw with hw | hw
  · exact absurd hw (not_mem_of_all rfl hform)
  rcases List.mem_cons.1 hw with rfl | hw
  · rw [samplerName_eq]
    exact List.mem_map_of_mem List.mem_cons_self
  · refine absurd hw (not_mem_of_all ?_ hform)
    cases l.packing <;> rfl

end Bound

/-- Every instance has a fragment, if its operand has a layout and a key that may be part of a
name. -/
theorem exists_introduces (hi : addressing.Fits i)
    (hbound : ∀ key, i.binding = some key →
      key.toList.all isNameChar = true ∧ ∃ l, t.get key = .ok l) :
    ∃ f, addressing.fragment t i = .ok f ∧ Introduces i f := by
  rcases fits_cases hi with h | ⟨key, h⟩
  · simp only [List.mem_cons, List.not_mem_nil, or_false] at h
    rcases h with rfl | rfl | rfl
    · exact ⟨_, fragment_transfer t, introduces_transfer⟩
    · exact ⟨_, fragment_getOutputTensorPos t, introduces_position t.output⟩
    · exact ⟨_, fragment_setOutput t, introduces_setOutput⟩
  · have hbinding : i.binding = some key := by
      simp only [List.mem_cons, List.not_mem_nil, or_false] at h
      rcases h with rfl | rfl | rfl | rfl <;> rfl
    obtain ⟨hkey, l, hl⟩ := hbound key hbinding
    simp only [List.mem_cons, List.not_mem_nil, or_false] at h
    rcases h with rfl | rfl | rfl | rfl
    · exact ⟨_, fragment_textureDecl hl, introduces_texture hkey l⟩
    · exact ⟨_, fragment_getTexturePos hl, introduces_texel hkey l⟩
    · exact ⟨_, fragment_getValueFromTensorPos hl, introduces_value hkey l⟩
    · exact ⟨_, fragment_formatNCHW hl, introduces_clamp hkey l⟩

theorem count_declaredNames (h : List.Forall₂ Introduces is fs) (hw : IsLibraryName w) :
    (fs.flatMap (declaredNames ·.source)).count w = (is.map introducedName).count w := by
  induction h with
  | nil => rfl
  | @cons i f is fs hif _ ih =>
    rw [List.flatMap_cons, List.count_append, hif.declared w hw, ih, List.map_cons, List.count_cons,
      Nat.add_comm]
    simp only [beq_iff_eq, eq_comm (a := w)]

theorem exists_getElem?_of_forall₂ {α β : Type} {R : α → β → Prop} {as : List α} {bs : List β}
    {k : Nat} {b : β} (h : List.Forall₂ R as bs) (hb : bs[k]? = some b) :
    ∃ a, as[k]? = some a ∧ R a b := by
  induction h generalizing k with
  | nil => simp at hb
  | @cons a b' as bs hab _ ih =>
    cases k with
    | zero =>
      obtain rfl : b' = b := by simpa using hb
      exact ⟨a, rfl, hab⟩
    | succ k => exact ih hb

/-- Requests for instances of the library, for operands whose keys may be part of a name, and whose
layouts are known, have a plan and its fragments. The identifiers of the plan are different. A name
of the library that occurs in a fragment is declared once in all of the fragments, namely in that
one or in an earlier one. -/
theorem exists_closed_fragments (hfits : ∀ r ∈ requests, addressing.Fits r)
    (hbound : ∀ r ∈ requests, ∀ key, r.binding = some key →
      key.toList.all isNameChar = true ∧ ∃ l, t.get key = .ok l) :
    ∃ p fs, addressing.resolve requests = .ok p ∧ addressing.render p t = .ok fs ∧
      (p.instances.map (·.ident)).Nodup ∧
      ∀ (k : Nat) (f : Fragment), fs[k]? = some f →
        ∀ w, .word w ∈ Shader.tokens f.source.toList → IsLibraryName w →
          (∃ m ≤ k, ∃ g, fs[m]? = some g ∧ w ∈ declaredNames g.source) ∧
            (fs.flatMap (declaredNames ·.source)).count w = 1 := by
  have hsound := layered_addressing.sound hfits
  obtain ⟨p, hp⟩ := hsound.exists_plan
  have hall : ∀ i ∈ p.instances, ∃ f, addressing.fragment t i = .ok f ∧ Introduces i f := by
    intro i hi
    have hreaches := (mem_instances_iff hp).1 hi
    refine exists_introduces (hsound.fits_of_reaches hreaches) fun key hkey => ?_
    -- an instance has the binding of the request that it is needed for, or none
    obtain ⟨r, hr, hreach⟩ := hreaches
    rcases binding_eq_of_reflTransGen hreach with hb | hb
    · exact hbound r hr key (hb.symm.trans hkey)
    · rw [hb] at hkey
      cases hkey
  obtain ⟨fs, hfs, hintroduces⟩ := exists_mapM_eq_ok hall
  refine ⟨p, fs, hp, hfs, nodup_idents_addressing hp, fun k f hf w hw hname => ?_⟩
  have horder := (resolve_grown hp).inOrder
  have hnodup : (p.instances.map introducedName).Nodup := by
    refine (List.nodup_map_iff_inj_on horder.nodup).2 fun i hi j hj heq => ?_
    exact introducedName_inj (hsound.fits_of_reaches ((mem_instances_iff hp).1 hi))
      (hsound.fits_of_reaches ((mem_instances_iff hp).1 hj)) heq
  obtain ⟨i, hi, hif⟩ := exists_getElem?_of_forall₂ hintroduces hf
  obtain ⟨m, hm, j, hj, rfl⟩ : ∃ m ≤ k, ∃ j, p.instances[m]? = some j ∧ w = introducedName j := by
    rcases hif.mentioned w hw hname with rfl | ⟨j, hneeds, rfl⟩
    · exact ⟨k, Nat.le_refl k, i, hi, rfl⟩
    · obtain ⟨m, hm, hj⟩ := horder.earlier hi hneeds
      exact ⟨m, Nat.le_of_lt hm, j, hj, rfl⟩
  obtain ⟨g, hg, hjg⟩ := exists_getElem?_of_forall₂ hintroduces.flip hj
  refine ⟨⟨m, hm, g, hg, List.count_pos_iff.1 ?_⟩, ?_⟩
  · rw [hjg.declared _ hname, if_pos rfl]
    exact Nat.one_pos
  · rw [count_declaredNames hintroduces hname]
    exact List.count_eq_one_of_mem hnodup (List.mem_map_of_mem (List.mem_of_getElem? hj))

def readerRequests : List Instance :=
  [⟨"getValueFromTensorPos", some "row_x"⟩, ⟨"formatNCHW", some "x"⟩, ⟨"getOutputTensorPos", none⟩]

/-- Two operands, of which the key of one ends with that of the other, on textures of both kinds. -/
def readerLayouts : LayoutTable :=
  ((LayoutTable.ofOutput wideLayout).bind "row_x" sampleLayout).bind "x" wideLayout

def readerPlan : Plan :=
  ⟨[⟨"textureDecl", some "row_x"⟩, ⟨"getTexturePos", some "row_x"⟩,
    ⟨"getValueFromTensorPos", some "row_x"⟩, ⟨"formatNCHW", some "x"⟩,
    ⟨"transferFromNHWCtoNCHW", none⟩, ⟨"getOutputTensorPos", none⟩]⟩

theorem exists_closed_fragments_readers :
    (∀ r ∈ readerRequests, addressing.Fits r) ∧
      (∀ r ∈ readerRequests, ∀ key, r.binding = some key →
        key.toList.all isNameChar = true ∧ ∃ l, readerLayouts.get key = .ok l) ∧
      addressing.resolve readerRequests = .ok readerPlan ∧
      ∃ fs, addressing.render readerPlan readerLayouts = .ok fs ∧
        ∀ (k : Nat) (f : Fragment), fs[k]? = some f →
          ∀ w, .word w ∈ Shader.tokens f.source.toList → IsLibraryName w →
            (∃ m ≤ k, ∃ g, fs[m]? = some g ∧ w ∈ declaredNames g.source) ∧
              (fs.flatMap (declaredNames ·.source)).count w = 1 := by
  have hfits : ∀ r ∈ readerRequests, addressing.Fits r := by
    intro r hr
    simp only [readerRequests, List.mem_cons, List.not_mem_nil, or_false] at hr
    rcases hr with rfl | rfl | rfl <;> exact ⟨_, rfl, rfl⟩
  have hbound : ∀ r ∈ readerRequests, ∀ key, r.binding = some key →
      key.toList.all isNameChar = true ∧ ∃ l, readerLayouts.get key = .ok l := by
    intro r hr key hkey
    simp only [readerRequests, List.mem_cons, List.not_mem_nil, or_false] at hr
    rcases hr with rfl | rfl | rfl <;> cases hkey
    · exact ⟨by decide, _, rfl⟩
    · exact ⟨by decide, _, rfl⟩
  obtain ⟨p, fs, hp, hfs, -, hall⟩ := exists_closed_fragments hfits hbound
  have hplan : addressing.resolve readerRequests = .ok readerPlan := rfl
  obtain rfl : readerPlan = p := Except.ok.inj (hplan.symm.trans hp)
  exact ⟨hfits, hbound, hplan, fs, hfs, hall⟩

end TensorShader.Library
