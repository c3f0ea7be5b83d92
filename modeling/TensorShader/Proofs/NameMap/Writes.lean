import TensorShader.NameMap
import Mathlib.Data.List.Induction
import Mathlib.Data.List.Sort

/-! What a map holds after it has been filled: under each name the value that was written last. As
the entries are kept in order, nothing else about the writes can be told from the map. -/

namespace TensorShader.NameMap

variable {α : Type}

/-- The value that was written last under a name. -/
def lastWritten? (pairs : List (String × α)) (name : String) : Option α := pairs.reverse.lookup name

/-- The same names were written, each with the same value at last. -/
def SameLast (ps qs : List (String × α)) : Prop :=
  ∀ name, lastWritten? ps name = lastWritten? qs name

variable {ps qs : List (String × α)} {m m' : NameMap α} {name : String} {x : α}

theorem ofList_concat (ps : List (String × α)) (p : String × α) :
    ofList (ps ++ [p]) = (ofList ps).insert p.1 p.2 := by
  rw [ofList, List.foldl_append]
  rfl

theorem lastWritten?_concat (ps : List (String × α)) (p : String × α) (name : String) :
    lastWritten? (ps ++ [p]) name = if name = p.1 then some p.2 else lastWritten? ps name := by
  rw [lastWritten?, List.reverse_append, List.reverse_singleton, List.singleton_append,
    lookup_cons_ite]
  rfl

/-- A filled map has under each name what was written there last. -/
theorem find?_ofList (ps : List (String × α)) (name : String) :
    (ofList ps).find? name = lastWritten? ps name := by
  induction ps using List.reverseRecOn with
  | nil => rfl
  | append_singleton ps p ih => rw [ofList_concat, find?_insert, lastWritten?_concat, ih]

theorem lookup_eq_some_iff_mem {es : List (String × α)} (hes : es.Pairwise fun a b => a.1 < b.1) :
    es.lookup name = some x ↔ (name, x) ∈ es := by
  induction hes with
  | nil => simp
  | @cons e es hlt _ ih =>
    rw [lookup_cons_ite, List.mem_cons, Prod.ext_iff]
    by_cases hname : name = e.1
    · subst hname
      -- a later entry has a greater name
      have hnot : (e.1, x) ∉ es := fun hmem => String.lt_irrefl e.1 (hlt (e.1, x) hmem)
      rw [if_pos rfl, Option.some_inj, or_iff_left hnot]
      exact ⟨fun h => ⟨rfl, h.symm⟩, fun h => h.2.symm⟩
    · simp [hname, ih]

theorem mem_entries_iff : (name, x) ∈ m.entries ↔ m.find? name = some x :=
  (lookup_eq_some_iff_mem m.ascending).symm

/-- Maps are equal if they have the same value under each name. -/
theorem ext_find? (h : ∀ name, m.find? name = m'.find? name) : m = m' := by
  have hirrefl : Std.Irrefl fun a b : String × α => a.1 < b.1 := ⟨fun a => String.lt_irrefl a.1⟩
  have hantisymm : Std.Antisymm fun a b : String × α => a.1 < b.1 :=
    ⟨fun a b hab hba => absurd (String.lt_trans hab hba) (String.lt_irrefl a.1)⟩
  refine ext_entries (m.ascending.eq_of_mem_iff m'.ascending fun e => ?_)
  rw [mem_entries_iff, mem_entries_iff, h]

/-- Filled maps are equal exactly if the same values were written last. -/
theorem ofList_eq_iff : ofList ps = ofList qs ↔ SameLast ps qs := by
  refine ⟨fun h name => ?_, fun h => ext_find? fun name => ?_⟩
  · rw [← find?_ofList, ← find?_ofList, h]
  · rw [find?_ofList, find?_ofList, h name]

end TensorShader.NameMap
