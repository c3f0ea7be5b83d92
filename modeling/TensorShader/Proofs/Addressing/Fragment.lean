import TensorShader.Proofs.Except
import TensorShader.Subroutine.Fragment

/-! Fragments from their parts: the subroutine, the layout it is specialized for, and what its
template writes. Where there is no fragment, one of these is missing. -/

namespace TensorShader

open Subroutine (Instance)

theorem LayoutTable.layoutOf_bind (t : LayoutTable) (name key : String) (l : LayoutRecord) :
    (t.bind key l).layoutOf ⟨name, some key⟩ = .ok l := by
  simp [layoutOf, get, bind]

theorem LayoutTable.get_eq_error {t : LayoutTable} {key : String} {e : Error}
    (h : t.get key = .error e) : t.inputs.find? key = none ∧ e = .unboundOperand key := by
  unfold get at h
  split at h
  · cases h
  · exact ⟨‹_›, (Except.error.inj h).symm⟩

theorem renderNamed_eq_error {name template : String} {ctx : Template.Value} {e : Error}
    (h : renderNamed name template ctx = .error e) :
    ∃ fault, Template.render template ctx = .error fault ∧
      e = .unrenderable name (.template fault) := by
  unfold renderNamed at h
  cases hrender : Template.render template ctx with
  | error fault =>
    rw [hrender] at h
    exact ⟨fault, rfl, (Except.error.inj h).symm⟩
  | ok text =>
    rw [hrender] at h
    cases h

namespace Library

variable {lib : Library} {t t' : LayoutTable} {i : Instance} {s : Subroutine} {l : LayoutRecord}
  {e : Error}

/-- What a fragment of an instance is made of. -/
theorem fragment_eq_ok_iff {f : Fragment} :
    lib.fragment t i = .ok f ↔ f.inst = i ∧ ∃ s l, lib.lookup i = .ok s ∧ t.layoutOf i = .ok l ∧
      renderNamed i.ident s.template (i.context l t.output) = .ok f.source := by
  simp only [fragment, bind_eq_ok_iff]
  constructor
  · rintro ⟨s, hs, l, hl, text, htext, hf⟩
    obtain rfl := Except.ok.inj hf
    exact ⟨rfl, s, l, hs, hl, htext⟩
  · rintro ⟨rfl, s, l, hs, hl, htext⟩
    exact ⟨s, hs, l, hl, f.source, htext, rfl⟩

/-- Why an instance that can be looked up has no fragment: its operand has no layout, or its template
fails. -/
theorem fragment_eq_error (hs : lib.lookup i = .ok s) (h : lib.fragment t i = .error e) :
    (∃ key, i.binding = some key ∧ t.inputs.find? key = none ∧ e = .unboundOperand key) ∨
      ∃ l fault, t.layoutOf i = .ok l ∧
        Template.render s.template (i.context l t.output) = .error fault ∧
        e = .unrenderable i.ident (.template fault) := by
  rcases bind_eq_error_iff.mp h with h | ⟨s', hs', h⟩
  · rw [hs] at h
    cases h
  obtain rfl : s = s' := Except.ok.inj (hs.symm.trans hs')
  rcases bind_eq_error_iff.mp h with hl | ⟨l, hl, h⟩
  · unfold LayoutTable.layoutOf at hl
    split at hl
    · exact .inl ⟨_, ‹_›, LayoutTable.get_eq_error hl⟩
    · cases hl
  · rcases bind_eq_error_iff.mp h with h | ⟨text, -, h⟩
    · obtain ⟨fault, hrender, rfl⟩ := renderNamed_eq_error h
      exact .inr ⟨l, fault, hl, hrender, rfl⟩
    · cases h

/-- Of a table, a fragment depends on the layout of the output and on that of its instance. -/
theorem fragment_congr (hout : t.output = t'.output) (hl : t.layoutOf i = t'.layoutOf i) :
    lib.fragment t i = lib.fragment t' i := by
  rw [fragment, fragment, hout, hl]

theorem fragment_eq {template : Template} {text : String} (hs : lib.lookup i = .ok s)
    (hl : t.layoutOf i = .ok l) (hparse : Template.parse s.template = .ok template)
    (hfill : template.fill (i.context l t.output) = .ok text) :
    lib.fragment t i = .ok ⟨i, text⟩ := by
  have hrender : Template.render s.template (i.context l t.output) = .ok text := by
    rw [Template.render, hparse]
    exact hfill
  refine fragment_eq_ok_iff.mpr ⟨rfl, s, l, hs, hl, ?_⟩
  rw [renderNamed, hrender]
  rfl

end Library

end TensorShader
