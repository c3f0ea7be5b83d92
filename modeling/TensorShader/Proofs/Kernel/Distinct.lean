import TensorShader.Proofs.Kernel.Reads
import TensorShader.Proofs.Number.Literal

/-! Which kernels over the same shapes have the same source. The fragments do not depend on the
parameters, and the body of an operator can be read back from its text, so a source determines the
operation with its axis, or the slice. -/

namespace TensorShader

/-- Texts that are cut at the first occurrence of a character are equal if both parts are. -/
theorem append_eq_append_of_notMem {s s' t t' : List Char} {c : Char} (hs : c ∉ s) (hs' : c ∉ s')
    (ht : t.head? = some c) (ht' : t'.head? = some c) : s ++ t = s' ++ t' ↔ s = s' ∧ t = t' := by
  refine ⟨fun h => ?_, fun ⟨h, h'⟩ => h ▸ h' ▸ rfl⟩
  obtain ⟨u, rfl⟩ := List.head?_eq_some_iff.1 ht
  obtain ⟨u', rfl⟩ := List.head?_eq_some_iff.1 ht'
  -- the part of one text that the other does not have starts with the character
  rcases List.append_eq_append_iff.1 h with ⟨rest, rfl, hrest⟩ | ⟨rest, rfl, hrest⟩ <;>
  · cases rest with
    | nil => simpa [eq_comm] using hrest
    | cons d rest =>
      obtain ⟨rfl, -⟩ := List.cons.inj hrest
      simp at hs hs'

theorem String.append_eq_append_of_notMem {s s' t t' : String} {c : Char} (hs : c ∉ s.toList)
    (hs' : c ∉ s'.toList) (ht : t.toList.head? = some c) (ht' : t'.toList.head? = some c) :
    s ++ t = s' ++ t' ↔ s = s' ∧ t = t' := by
  rw [← String.toList_inj, String.toList_append, String.toList_append,
    TensorShader.append_eq_append_of_notMem hs hs' ht ht', String.toList_inj, String.toList_inj]

theorem notMem_toString {c : Char} (hc : isLiteralChar c = false) (i : Int) :
    c ∉ (toString i).toList := by
  intro hmem
  rw [isLiteralChar_of_mem_int hmem] at hc
  cases hc

/-- A written integer is read back as the tokens of one integer only. -/
theorem toString_int_inj {i j : Int} : toString i = toString j ↔ i = j := by
  have hread : Shader.intTokens i = Shader.intTokens j → i = j := by
    cases i <;> cases j <;> (simp [Shader.intTokens]; try omega)
  refine ⟨fun h => hread ?_, congrArg _⟩
  rw [← Shader.tokens_int, h, Shader.tokens_int]

theorem Arithmetic.symbol_inj {a a' : Arithmetic} : a.symbol = a'.symbol ↔ a = a' := by
  cases a <;> cases a' <;> decide

theorem Axis.lane_inj {d d' : Axis} : d.lane = d'.lane ↔ d = d' := by
  cases d <;> cases d' <;> decide

theorem Axis.ofInt_eq_iff {i j : Int} : ofInt i = ofInt j ↔ i % 4 = j % 4 := by
  constructor
  · intro h
    rw [← index_ofInt, ← index_ofInt, h]
  · intro h
    unfold ofInt
    rw [h]

namespace Assembler

variable {a : Assembler} {shapes : OperandShapes} {t t' : LayoutTable} {k k' : Kernel}

/-- Layouts do not depend on the operator that has the operands. -/
theorem layouts_eq_ok_congr {d d' : Descriptor} (h : d.inputs = d'.inputs) :
    a.layouts d shapes = .ok t ↔ a.layouts d' shapes = .ok t := by
  simp only [layouts, bind_eq_ok_iff, h]
  refine exists_congr fun out => and_congr_right fun _ => foldlM_eq_ok_congr fun o t t' => ?_
  rw [bindOperand_eq_ok_iff, bindOperand_eq_ok_iff]

theorem paragraphs_concat_inj {ss : List String} {s s' : String} :
    paragraphs (ss ++ [s]) = paragraphs (ss ++ [s']) ↔ s = s' := by
  induction ss with
  | nil => simp [paragraphs]
  | cons r ss ih => simpa [paragraphs] using ih

/-- Kernels of operators with the same operands and requests, made for the same shapes, differ in
their bodies alone. -/
theorem Makes.source_eq_iff {op op' : Operator} {params params' : Params}
    {fs fs' : List Fragment} {body body' : String}
    (hinputs : op.descriptor.inputs = op'.descriptor.inputs)
    (hrequests : op.descriptor.requests = op'.descriptor.requests)
    (h : a.Makes op params shapes t fs body k) (h' : a.Makes op' params' shapes t' fs' body' k') :
    k.source = k'.source ↔ body = body' := by
  obtain rfl : t = t' :=
    Except.ok.inj (((layouts_eq_ok_congr hinputs).1 h.layouts).symm.trans h'.layouts)
  obtain rfl := h.provided.unique (hrequests ▸ h'.provided)
  rw [h.source, h'.source, String.append_right_inj, paragraphs_concat_inj]

end Assembler

namespace Operator

/-- The body of an elementwise operator can be read back: its axis stands between fixed texts. -/
theorem elementwiseBody_inj (args : Int → String) {axis axis' : Int} {a a' : Arithmetic} :
    elementwiseBody axis (args axis) a = elementwiseBody axis' (args axis') a' ↔
      axis = axis' ∧ a = a' := by
  refine ⟨fun h => ?_, fun ⟨haxis, ha⟩ => haxis ▸ ha ▸ rfl⟩
  simp only [elementwiseBody, mainText, elementwiseFront, elementwiseTexts, Shader.weave,
    String.append_assoc, String.append_right_inj] at h
  obtain ⟨haxis, h⟩ := (String.append_eq_append_of_notMem (notMem_toString (c := ';') rfl axis)
    (notMem_toString rfl axis') (by simp) (by simp)).1 h
  obtain rfl := toString_int_inj.1 haxis
  simp only [String.append_right_inj, String.append_left_inj] at h
  exact ⟨rfl, Arithmetic.symbol_inj.1 h⟩

/-- The body of `split` can be read back: the component and the offset stand between fixed texts. -/
theorem splitBody_inj {d d' : Axis} {offset offset' : Int} :
    splitBody d offset = splitBody d' offset' ↔ d = d' ∧ offset = offset' := by
  refine ⟨fun h => ?_, fun ⟨hd, hoffset⟩ => hd ▸ hoffset ▸ rfl⟩
  have hblank (d : Axis) : ' ' ∉ d.lane.toList := by cases d <;> decide
  simp only [splitBody, mainText, Shader.weave, String.append_right_inj] at h
  obtain ⟨hlane, h⟩ := (String.append_eq_append_of_notMem (hblank d) (hblank d') (by simp)
    (by simp)).1 h
  simp only [String.append_right_inj, String.append_left_inj] at h
  exact ⟨Axis.lane_inj.1 hlane, toString_int_inj.1 h⟩

/-- The operators that come with the library check different things. -/
theorem eq_of_rule_eq {op op' : RuledOperator} (hop : op ∈ builtins) (hop' : op' ∈ builtins)
    (h : op.rule = op'.rule) : op = op' := by
  have hnodup : (builtins.map (·.rule)).Nodup := by decide
  exact List.inj_on_of_nodup_map hnodup hop hop' h

theorem exists_elementwise {op : RuledOperator} {b : Arithmetic} (hop : op ∈ builtins)
    (hrule : op.rule = .elementwise b) : ∃ name, op = elementwise name b := by
  rcases mem_builtins hop with ⟨name, c, rfl⟩ | rfl | rfl
  · obtain rfl := BodyRule.elementwise.inj hrule
    exact ⟨name, rfl⟩
  · cases hrule
  · cases hrule

variable {a : Assembler} {op op' : RuledOperator} {params params' : Params} {shapes : OperandShapes}
  {k k' : Kernel}

theorem source_elementwise_eq_iff {b b' : Arithmetic} (hop : op ∈ builtins)
    (hop' : op' ∈ builtins) (hrule : op.rule = .elementwise b) (hrule' : op'.rule = .elementwise b')
    (h : a.assemble op params shapes = .ok k) (h' : a.assemble op' params' shapes = .ok k') :
    ∃ axis axis', params.find? "axis" = some (.int axis) ∧
      params'.find? "axis" = some (.int axis') ∧
      (k.source = k'.source ↔ op = op' ∧ axis = axis') := by
  obtain ⟨-, t, fs, body, hmakes⟩ := exists_makes h
  obtain ⟨-, t', fs', body', hmakes'⟩ := exists_makes h'
  obtain ⟨x, hx, -⟩ := origin_layout hop hmakes.layouts
  obtain ⟨x', hx', -⟩ := origin_layout hop' hmakes'.layouts
  obtain ⟨name, rfl⟩ := exists_elementwise hop hrule
  obtain ⟨name', rfl⟩ := exists_elementwise hop' hrule'
  obtain ⟨axis, haxis, -, rfl⟩ := (writes_elementwise_iff hx).1 hmakes.written
  obtain ⟨axis', haxis', -, rfl⟩ := (writes_elementwise_iff hx').1 hmakes'.written
  refine ⟨axis, axis', haxis, haxis', ?_⟩
  have hinputs : (elementwise name b).descriptor.inputs = (elementwise name' b').descriptor.inputs :=
    rfl
  rw [hmakes.source_eq_iff hinputs rfl hmakes', elementwiseBody_inj fun axis =>
    (Alignment.ofParam axis).readArgs BodyContext.coordVar, and_comm]
  exact and_congr_left fun _ =>
    ⟨fun heq => eq_of_rule_eq hop hop' (congrArg BodyRule.elementwise heq),
      fun heq => BodyRule.elementwise.inj (congrArg RuledOperator.rule heq)⟩

theorem source_split_eq_iff (h : a.assemble split params shapes = .ok k)
    (h' : a.assemble split params' shapes = .ok k') :
    ∃ axis axis' offset offset', params.find? "axis" = some (.int axis) ∧
      params'.find? "axis" = some (.int axis') ∧ params.find? "offset" = some (.int offset) ∧
      params'.find? "offset" = some (.int offset') ∧
      (k.source = k'.source ↔ axis % 4 = axis' % 4 ∧ offset = offset') := by
  have hop : split ∈ builtins := by simp [builtins]
  obtain ⟨-, t, fs, body, hmakes⟩ := exists_makes h
  obtain ⟨-, t', fs', body', hmakes'⟩ := exists_makes h'
  obtain ⟨x, hx, -⟩ := origin_layout hop hmakes.layouts
  obtain ⟨x', hx', -⟩ := origin_layout hop hmakes'.layouts
  obtain ⟨axis, offset, haxis, hoffset, -, rfl⟩ := (writes_split_iff hx).1 hmakes.written
  obtain ⟨axis', offset', haxis', hoffset', -, rfl⟩ := (writes_split_iff hx').1 hmakes'.written
  refine ⟨axis, axis', offset, offset', haxis, haxis', hoffset, hoffset', ?_⟩
  rw [hmakes.source_eq_iff rfl rfl hmakes', splitBody_inj, Axis.ofInt_eq_iff]

/-- Over the same shapes, kernels of elementwise operators have the same source exactly if they are
of one operator with one axis, also where axes broadcast alike. Kernels of `split` have the same
source exactly if their axes name one dimension and their offsets are the same. -/
theorem sources_equal_iff (a : Assembler) (params params' : Params) (shapes : OperandShapes)
    (k k' : Kernel) :
    (∀ op ∈ builtins, ∀ op' ∈ builtins, ∀ b b', op.rule = .elementwise b →
      op'.rule = .elementwise b' → a.assemble op params shapes = .ok k →
      a.assemble op' params' shapes = .ok k' →
      ∃ axis axis', params.find? "axis" = some (.int axis) ∧
        params'.find? "axis" = some (.int axis') ∧
        (k.source = k'.source ↔ op = op' ∧ axis = axis')) ∧
    (a.assemble split params shapes = .ok k → a.assemble split params' shapes = .ok k' →
      ∃ axis axis' offset offset', params.find? "axis" = some (.int axis) ∧
        params'.find? "axis" = some (.int axis') ∧ params.find? "offset" = some (.int offset) ∧
        params'.find? "offset" = some (.int offset') ∧
        (k.source = k'.source ↔ axis % 4 = axis' % 4 ∧ offset = offset')) :=
  ⟨fun _ hop _ hop' _ _ => source_elementwise_eq_iff hop hop', source_split_eq_iff⟩

/-- A row that is added to every row of an output. -/
def rowShapes : OperandShapes :=
  ((OperandShapes.ofOutput ⟨⟨1, 2, 3, 5⟩⟩).input "X" ⟨⟨1, 2, 3, 5⟩⟩).input "Y" ⟨⟨1, 1, 1, 5⟩⟩

/-- The row and the output fit on a small device. -/
theorem exists_kernel_row (params : Params) {axis : Int}
    (haxis : params.find? "axis" = some (.int axis)) :
    ∃ k, (Assembler.ofConfig smallDevice).assemble (elementwise "elementwise_add" .add) params
      rowShapes = .ok k := by
  refine (exists_kernel_iff (by simp [builtins]) .refl).2 ⟨fun name hname => ?_, ⟨?_, fun o ho => ?_⟩,
    ⟨axis, haxis⟩, by decide⟩
  · obtain rfl := List.mem_singleton.1 hname
    exact Option.isSome_iff_exists.2 ⟨_, haxis⟩
  · exact ⟨by decide, by decide, by decide, by decide, by decide⟩
  · simp only [elementwise, List.mem_cons, List.not_mem_nil, or_false] at ho
    rcases ho with rfl | rfl
    · exact ⟨⟨⟨1, 2, 3, 5⟩⟩, by decide, by decide, by decide, by decide, by decide, by decide⟩
    · exact ⟨⟨⟨1, 1, 1, 5⟩⟩, by decide, by decide, by decide, by decide, by decide, by decide⟩

/-- The second half of the channels has a kernel for each axis that names the channels. -/
theorem exists_kernel_half (axis : Int) (params : Params)
    (haxis : params.find? "axis" = some (.int axis))
    (hoffset : params.find? "offset" = some (.int 2)) (hleast : -4 ≤ axis) (hgreatest : axis < 4)
    (hchannel : Axis.ofInt axis = .c) :
    ∃ k, (Assembler.ofConfig smallDevice).assemble split params halfShapes = .ok k := by
  obtain ⟨-, hadmits, -⟩ := accepts_half
  have hslice : Slice axis 2 ⟨⟨1, 4, 3, 5⟩⟩ ⟨⟨1, 2, 3, 5⟩⟩ := by
    refine ⟨hleast, hgreatest, by decide, fun d hd => ?_, by rw [hchannel]; decide⟩
    rw [hchannel] at hd
    cases d with
    | c => exact absurd rfl hd
    | n | h | w => rfl
  refine (exists_kernel_iff (by simp [builtins]) .refl).2 ⟨fun name hname => ?_, hadmits,
    ⟨axis, 2, ⟨⟨1, 4, 3, 5⟩⟩, haxis, hoffset, by decide, hslice⟩⟩
  have hname : name ∈ ["axis", "offset"] := hname
  simp only [List.mem_cons, List.not_mem_nil, or_false] at hname
  rcases hname with rfl | rfl
  · exact Option.isSome_iff_exists.2 ⟨_, haxis⟩
  · exact Option.isSome_iff_exists.2 ⟨_, hoffset⟩

/-- The axes -1 and 0 broadcast alike, and adding has different sources with them; the axes -3 and 1
name one dimension, and splitting has one source with them. -/
theorem sources_equal_iff_half :
    (∃ k k', (Assembler.ofConfig smallDevice).assemble (elementwise "elementwise_add" .add)
        (.ofList [("axis", .int (-1))]) rowShapes = .ok k ∧
      (Assembler.ofConfig smallDevice).assemble (elementwise "elementwise_add" .add)
        (.ofList [("axis", .int 0)]) rowShapes = .ok k' ∧ k.source ≠ k'.source) ∧
    ∃ k k', (Assembler.ofConfig smallDevice).assemble split halfParams halfShapes = .ok k ∧
      (Assembler.ofConfig smallDevice).assemble split
        (.ofList [("axis", .int 1), ("offset", .int 2)]) halfShapes = .ok k' ∧
      k.source = k'.source := by
  constructor
  · obtain ⟨k, hk⟩ := exists_kernel_row (.ofList [("axis", .int (-1))]) rfl
    obtain ⟨k', hk'⟩ := exists_kernel_row (.ofList [("axis", .int 0)]) rfl
    have hop : elementwise "elementwise_add" .add ∈ builtins := by simp [builtins]
    obtain ⟨axis, axis', haxis, haxis', hiff⟩ :=
      (sources_equal_iff _ _ _ _ k k').1 _ hop _ hop .add .add rfl rfl hk hk'
    have haxis : some (Param.int (-1)) = some (.int axis) := haxis
    have haxis' : some (Param.int 0) = some (.int axis') := haxis'
    obtain rfl : -1 = axis := Param.int.inj (Option.some.inj haxis)
    obtain rfl : 0 = axis' := Param.int.inj (Option.some.inj haxis')
    exact ⟨k, k', hk, hk', fun hsource => absurd (hiff.1 hsource).2 (by decide)⟩
  · obtain ⟨k, hk⟩ := exists_kernel_half (-3) halfParams rfl rfl (by decide) (by decide) rfl
    obtain ⟨k', hk'⟩ := exists_kernel_half 1 (.ofList [("axis", .int 1), ("offset", .int 2)])
      rfl rfl (by decide) (by decide) rfl
    obtain ⟨axis, axis', offset, offset', haxis, haxis', hoffset, hoffset', hiff⟩ :=
      (sources_equal_iff _ _ _ _ k k').2 hk hk'
    have haxis : some (Param.int (-3)) = some (.int axis) := haxis
    have haxis' : some (Param.int 1) = some (.int axis') := haxis'
    obtain rfl : -3 = axis := Param.int.inj (Option.some.inj haxis)
    obtain rfl : 1 = axis' := Param.int.inj (Option.some.inj haxis')
    have hoffsets : offset = offset' :=
      Param.int.inj (Option.some.inj (hoffset.symm.trans hoffset'))
    exact ⟨k, k', hk, hk', hiff.2 ⟨by decide, hoffsets⟩⟩

end Operator

end TensorShader
