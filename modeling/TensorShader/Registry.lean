/-! Registries: named entries that are added once and never replaced. An operation that can fail
results in its outcome together with the registry that it leaves. -/

namespace TensorShader

/-- Named entries in the order of their registration, each name at most once. -/
structure Registry (α : Type) where
  entries : List (String × α)
  nodup : (entries.map Prod.fst).Nodup

namespace Registry

variable {α : Type}

def empty : Registry α := ⟨[], .nil⟩

instance : Inhabited (Registry α) := ⟨empty⟩

/-- The entry under `name`. -/
def find? (r : Registry α) (name : String) : Option α := r.entries.lookup name

/-- Whether `name` is taken. -/
def contains (r : Registry α) (name : String) : Bool := (r.find? name).isSome

def size (r : Registry α) : Nat := r.entries.length

/-- The names, in ascending order. -/
def names (r : Registry α) : List String := (r.entries.map Prod.fst).mergeSort

theorem lookup_eq_none {name : String} :
    {es : List (String × α)} → es.lookup name = none → name ∉ es.map Prod.fst
  | [], _ => by simp
  | e :: es, h => by
    rw [List.lookup_cons] at h
    split at h
    · cases h
    · rename_i hne
      simpa [lookup_eq_none h] using fun heq : name = e.1 => by simp [heq] at hne

theorem mem_of_lookup {κ : Type} [BEq κ] [LawfulBEq κ] {es : List (κ × α)} {key : κ} {x : α}
    (h : es.lookup key = some x) : (key, x) ∈ es := by
  obtain ⟨before, after, rfl, -⟩ := List.lookup_eq_some_iff.mp h
  simp

/-- The registry with an entry added under a name that is not taken. -/
def insertNew (r : Registry α) (name : String) (x : α) (h : r.find? name = none) : Registry α :=
  ⟨r.entries ++ [(name, x)], by
    rw [List.map_append, List.nodup_append]
    refine ⟨r.nodup, by simp, fun a ha b hb => ?_⟩
    simp only [List.map_cons, List.map_nil, List.mem_singleton] at hb
    exact fun hab => lookup_eq_none h (hb ▸ hab ▸ ha)⟩

/-- Registration of an entry, which fails with `taken` if there is an entry of its name. -/
def register {ε : Type} (r : Registry α) (name : String) (x : α) (taken : ε) :
    Except ε Unit × Registry α :=
  if h : r.find? name = none then (.ok (), r.insertNew name x h) else (.error taken, r)

theorem register_of_find?_none {ε : Type} {r : Registry α} {name : String}
    (h : r.find? name = none) (x : α) (taken : ε) :
    r.register name x taken = (.ok (), r.insertNew name x h) := dif_pos h

/-- An entry is kept when its name is registered again. -/
theorem register_of_find?_ne_none {ε : Type} {r : Registry α} {name : String}
    (h : r.find? name ≠ none) (x : α) (taken : ε) :
    r.register name x taken = (.error taken, r) := dif_neg h

@[simp] theorem find?_empty (name : String) : (empty : Registry α).find? name = none := rfl

/-- A new entry is found under its name, and nothing changes under the others. -/
theorem find?_insertNew (r : Registry α) (name other : String) (x : α) (h : r.find? name = none) :
    (r.insertNew name x h).find? other = if other = name then some x else r.find? other := by
  unfold find? insertNew at *
  rw [List.lookup_append, List.lookup_cons, List.lookup_nil]
  by_cases ho : other = name
  · subst ho
    simp [h]
  · simp [ho, beq_eq_false_iff_ne.mpr ho]

/-- What is found under a name stays there when anything is registered. -/
theorem find?_register {ε : Type} {r : Registry α} {other : String} {y : α}
    (h : r.find? other = some y) (name : String) (x : α) (taken : ε) :
    (r.register name x taken).2.find? other = some y := by
  cases hname : r.find? name with
  | none =>
    rw [register_of_find?_none hname, find?_insertNew, if_neg, h]
    rintro rfl
    rw [hname] at h
    cases h
  | some z => rwa [register_of_find?_ne_none (by simp [hname])]

/-- The registry of a list of named entries, of which the first under each name counts. -/
def ofList (entries : List (String × α)) : Registry α :=
  entries.foldl (fun r e => (r.register e.1 e.2 ()).2) empty

end Registry

end TensorShader
