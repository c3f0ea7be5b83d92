/-! Maps from names to values. The entries are kept in strictly ascending order of their names, so
a map is determined by what it holds and not by the order in which it was filled. -/

namespace TensorShader

/-- Finitely many named values, in strictly ascending order of the names. -/
structure NameMap (α : Type) where
  entries : List (String × α)
  ascending : entries.Pairwise fun a b => a.1 < b.1

namespace NameMap

variable {α : Type}

theorem ext_entries {m m' : NameMap α} (h : m.entries = m'.entries) : m = m' := by
  cases m; cases m'; cases h; rfl

instance [DecidableEq α] : DecidableEq (NameMap α) := fun m m' =>
  decidable_of_iff (m.entries = m'.entries) ⟨ext_entries, fun h => h ▸ rfl⟩

def empty : NameMap α := ⟨[], .nil⟩

instance : Inhabited (NameMap α) := ⟨empty⟩

/-- The entries with `x` under `name`, at its place in the order, instead of what was there. -/
def insertEntry (name : String) (x : α) : List (String × α) → List (String × α)
  | [] => [(name, x)]
  | e :: es =>
    if name < e.1 then (name, x) :: e :: es
    else if name = e.1 then (name, x) :: es
    else e :: insertEntry name x es

theorem mem_insertEntry {name : String} {x : α} {e : String × α} :
    {es : List (String × α)} → e ∈ insertEntry name x es → e = (name, x) ∨ e ∈ es
  | [], h => by simpa [insertEntry] using h
  | d :: ds, h => by
    unfold insertEntry at h
    split at h
    · simpa using h
    · split at h
      · exact (List.mem_cons.mp h).imp_right (List.mem_cons_of_mem d)
      · rcases List.mem_cons.mp h with rfl | h
        · exact .inr List.mem_cons_self
        · exact (mem_insertEntry h).imp_right (List.mem_cons_of_mem d)

theorem ascending_insertEntry (name : String) (x : α) :
    {es : List (String × α)} → es.Pairwise (fun a b => a.1 < b.1) →
      (insertEntry name x es).Pairwise fun a b => a.1 < b.1
  | [], _ => by simp [insertEntry]
  | e :: es, h => by
    have ⟨he, hes⟩ := List.pairwise_cons.mp h
    unfold insertEntry
    split
    · rename_i hlt
      refine List.pairwise_cons.mpr ⟨fun a ha => ?_, h⟩
      rcases List.mem_cons.mp ha with rfl | ha
      · exact hlt
      · exact String.lt_trans hlt (he a ha)
    · split
      · rename_i heq
        exact List.pairwise_cons.mpr ⟨fun a ha => heq ▸ he a ha, hes⟩
      · rename_i hnlt hne
        refine List.pairwise_cons.mpr ⟨fun a ha => ?_, ascending_insertEntry name x hes⟩
        rcases mem_insertEntry ha with rfl | ha
        · exact Std.not_le.mp fun hle => hne (Std.le_antisymm hle (Std.not_lt.mp hnlt))
        · exact he a ha

/-- The map with `x` under `name` instead of what was there. -/
def insert (m : NameMap α) (name : String) (x : α) : NameMap α :=
  ⟨insertEntry name x m.entries, ascending_insertEntry name x m.ascending⟩

/-- The value under `name`. -/
def find? (m : NameMap α) (name : String) : Option α := m.entries.lookup name

/-- Whether there is a value under `name`. -/
def contains (m : NameMap α) (name : String) : Bool := (m.find? name).isSome

/-- The names, in ascending order. -/
def names (m : NameMap α) : List String := m.entries.map Prod.fst

/-- The map that results when pairs are inserted in the order of a list. -/
def ofList (pairs : List (String × α)) : NameMap α :=
  pairs.foldl (fun m p => m.insert p.1 p.2) empty

@[simp] theorem find?_empty (name : String) : (empty : NameMap α).find? name = none := rfl

theorem lookup_cons_ite (name : String) (e : String × α) (es : List (String × α)) :
    (e :: es).lookup name = if name = e.1 then some e.2 else es.lookup name := by
  rw [List.lookup_cons]
  by_cases h : name = e.1
  · simp [h]
  · simp [h, beq_eq_false_iff_ne.mpr h]

theorem lookup_insertEntry (name other : String) (x : α) :
    (es : List (String × α)) → (insertEntry name x es).lookup other =
      if other = name then some x else es.lookup other
  | [] => by rw [insertEntry, lookup_cons_ite]
  | e :: es => by
    unfold insertEntry
    split
    · rw [lookup_cons_ite]
    · split
      · rename_i heq
        rw [lookup_cons_ite, lookup_cons_ite, ← heq]
        split <;> rfl
      · rename_i hne
        rw [lookup_cons_ite, lookup_cons_ite, lookup_insertEntry name other x es]
        by_cases he : other = e.1
        · simpa [he] using fun h => absurd (Eq.symm h) hne
        · simp [he]

/-- A value is found under the name it was inserted at, and nothing changes under the others. -/
@[simp] theorem find?_insert (m : NameMap α) (name other : String) (x : α) :
    (m.insert name x).find? other = if other = name then some x else m.find? other :=
  lookup_insertEntry name other x m.entries

end NameMap

end TensorShader
