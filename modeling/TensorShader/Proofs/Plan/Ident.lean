import TensorShader.Proofs.Plan.Resolve
import TensorShader.Subroutine.Addressing
import Mathlib.Data.List.Nodup

/-! Identifiers of instances. A plan holds each instance once, but the identifiers of two instances
are the same if the name of one is that of the other with an underscore and the start of the
other's binding after it. The identifiers of a plan are different exactly if that does not occur. -/

namespace TensorShader

namespace Subroutine.Instance

variable {i j : Instance}

/-- `i.Shadows j`: the name of `j` is that of `i`, an underscore, and a text; what else the
identifier of `j` has is added to the text in the binding of `i`. -/
def Shadows (i j : Instance) : Prop :=
  ∃ text, j.name = i.name ++ "_" ++ text ∧
    i.binding = some (j.binding.elim text fun key => text ++ "_" ++ key)

theorem ident_eq_of_shadows (h : i.Shadows j) : i.ident = j.ident := by
  obtain ⟨text, hname, hbinding⟩ := h
  unfold ident
  rw [hname, hbinding]
  cases j.binding <;> simp [String.append_assoc]

/-- Two texts with an underscore between them are cut at the same place, or one of the cuts lies
inside the other text before or after the cut. -/
theorem append_underscore_inj {s t k l : String} (h : s ++ "_" ++ k = t ++ "_" ++ l) :
    (s = t ∧ k = l) ∨ (∃ text, t = s ++ "_" ++ text ∧ k = text ++ "_" ++ l) ∨
      ∃ text, s = t ++ "_" ++ text ∧ l = text ++ "_" ++ k := by
  have hlist : s.toList ++ ('_' :: k.toList) = t.toList ++ ('_' :: l.toList) := by
    simpa [String.toList_append, List.append_assoc] using congrArg String.toList h
  have cut : ∀ {a b c d : String} {rest : List Char}, b.toList = a.toList ++ rest →
      '_' :: c.toList = rest ++ '_' :: d.toList →
      (a = b ∧ c = d) ∨ ∃ text, b = a ++ "_" ++ text ∧ c = text ++ "_" ++ d := by
    intro a b c d rest hb hc
    -- `rest` is what the second text has before its cut and the first does not
    cases rest with
    | nil =>
      refine .inl ⟨String.toList_inj.1 (by simpa using hb.symm), String.toList_inj.1 ?_⟩
      simpa using hc
    | cons u rest =>
      obtain ⟨rfl, hcut⟩ := List.cons.inj hc
      refine .inr ⟨.ofList rest, String.toList_inj.1 ?_, String.toList_inj.1 ?_⟩
      · simp [hb]
      · simpa using hcut
  rcases List.append_eq_append_iff.1 hlist with ⟨rest, hb, hc⟩ | ⟨rest, hb, hc⟩
  · rcases cut hb hc with heq | htext
    · exact .inl heq
    · exact .inr (.inl htext)
  · rcases cut hb hc with ⟨hst, hkl⟩ | htext
    · exact .inl ⟨hst.symm, hkl.symm⟩
    · exact .inr (.inr htext)

theorem shadows_of_ident_eq (hne : i ≠ j) (h : i.ident = j.ident) : i.Shadows j ∨ j.Shadows i := by
  obtain ⟨s, b⟩ := i
  obtain ⟨t, c⟩ := j
  cases b with
  | none =>
    cases c with
    | none => exact absurd (congrArg (Instance.mk · none) h) hne
    | some l => exact .inr ⟨l, h, rfl⟩
  | some k =>
    cases c with
    | none => exact .inl ⟨k, h.symm, rfl⟩
    | some l =>
      rcases append_underscore_inj h with ⟨rfl, rfl⟩ | ⟨text, ht, hk⟩ | ⟨text, hs, hl⟩
      · exact absurd rfl hne
      · exact .inl ⟨text, ht, congrArg some hk⟩
      · exact .inr ⟨text, hs, congrArg some hl⟩

theorem not_shadows_self (i : Instance) : ¬i.Shadows i := by
  rintro ⟨text, hname, -⟩
  -- its name would be longer than it is
  have hlength := congrArg (fun s => s.toList.length) hname
  simp at hlength

end Subroutine.Instance

namespace Library

open Subroutine (Instance)

variable {lib : Library} {requests : List Instance} {p : Plan}

theorem nodup_map_ident_iff {is : List Instance} (hnodup : is.Nodup) :
    (is.map (·.ident)).Nodup ↔ ∀ i ∈ is, ∀ j ∈ is, ¬i.Shadows j := by
  constructor
  · intro h i hi j hj hshadows
    have heq := (List.nodup_map_iff_inj_on hnodup).1 h i hi j hj
      (Instance.ident_eq_of_shadows hshadows)
    exact i.not_shadows_self (heq ▸ hshadows)
  · intro h
    refine (List.nodup_map_iff_inj_on hnodup).2 fun i hi j hj hident => ?_
    refine Classical.byContradiction fun hne => ?_
    rcases Instance.shadows_of_ident_eq hne hident with hshadows | hshadows
    · exact h i hi j hj hshadows
    · exact h j hj i hi hshadows

theorem name_mem_of_resolve (h : lib.resolve requests = .ok p) {i : Instance}
    (hi : i ∈ p.instances) : i.name ∈ lib.entries.map Prod.fst :=
  ((sound_of_resolve h).fits_of_reaches ((mem_instances_iff h).1 hi)).name_mem

theorem nodup_idents_of_names (h : lib.resolve requests = .ok p)
    (hnames : ∀ name ∈ lib.entries.map Prod.fst, '_' ∉ name.toList) :
    (p.instances.map (·.ident)).Nodup := by
  refine (nodup_map_ident_iff (resolve_grown h).inOrder.nodup).2 fun i hi j hj hshadows => ?_
  obtain ⟨text, hname, -⟩ := hshadows
  exact hnames j.name (name_mem_of_resolve h hj) (by simp [hname])

/-- No two instances of the texture addressing library have the same identifier. -/
theorem nodup_idents_addressing (h : addressing.resolve requests = .ok p) :
    (p.instances.map (·.ident)).Nodup :=
  nodup_idents_of_names h (by decide)

/-- The identifiers of a plan are different exactly if none of its instances shadows another. -/
theorem idents_nodup_iff (h : lib.resolve requests = .ok p) :
    (p.instances.map (·.ident)).Nodup ↔
      ∀ i ∈ p.instances, ∀ j ∈ p.instances, ¬i.Shadows j :=
  nodup_map_ident_iff (resolve_grown h).inOrder.nodup

/-- Two subroutines, of which the name of the second is that of the first with an addition. -/
def readers : Library := .ofList [
  ("read", ⟨"read", true, [], "float \x7b\x7b ident \x7d\x7d() \x7b return 0.0; \x7d"⟩),
  ("read_row", ⟨"read_row", true, [], "float \x7b\x7b ident \x7d\x7d() \x7b return 1.0; \x7d"⟩)]

/-- Bound to other operands, the two readers have different identifiers. -/
theorem idents_nodup_iff_readers :
    readers.resolve [⟨"read", some "x"⟩, ⟨"read_row", some "x"⟩] =
        .ok ⟨[⟨"read", some "x"⟩, ⟨"read_row", some "x"⟩]⟩ ∧
      (["read_x", "read_row_x"].Nodup ↔
        ∀ i ∈ [(⟨"read", some "x"⟩ : Instance), ⟨"read_row", some "x"⟩],
          ∀ j ∈ [(⟨"read", some "x"⟩ : Instance), ⟨"read_row", some "x"⟩], ¬i.Shadows j) := by
  have h : readers.resolve [⟨"read", some "x"⟩, ⟨"read_row", some "x"⟩] =
      .ok ⟨[⟨"read", some "x"⟩, ⟨"read_row", some "x"⟩]⟩ := by decide
  exact ⟨h, idents_nodup_iff h⟩

/-- Not every plan has different identifiers: bound to the operands `row_x` and `x`, the two readers
are different instances with the identifier `read_row_x`. -/
theorem exists_ident_eq :
    ¬∀ (lib : Library) (requests : List Instance) (p : Plan), lib.resolve requests = .ok p →
      ∀ i ∈ p.instances, ∀ j ∈ p.instances, i ≠ j → i.ident ≠ j.ident := by
  intro h
  have hplan : readers.resolve [⟨"read", some "row_x"⟩, ⟨"read_row", some "x"⟩] =
      .ok ⟨[⟨"read", some "row_x"⟩, ⟨"read_row", some "x"⟩]⟩ := by decide
  exact h readers _ _ hplan ⟨"read", some "row_x"⟩ (by simp) ⟨"read_row", some "x"⟩ (by simp)
    (by decide) (by decide)

end Library

end TensorShader
