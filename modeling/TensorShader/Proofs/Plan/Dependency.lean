import TensorShader.Proofs.Except
import TensorShader.Subroutine.Plan
import Mathlib.Logic.Relation

/-! Dependencies between instances of subroutines: which instances an instance needs, the list of
them in the order in which they are declared, and what can be reached from requests. -/

namespace TensorShader.Library

open Subroutine (Instance)
open Relation (ReflTransGen TransGen)

variable {lib : Library} {i j : Instance}

/-- `lib.Needs i j`: the subroutine of `i` depends on that of `j`, and `j` has the binding of `i` if
its subroutine is bound and no binding otherwise. -/
def Needs (lib : Library) (i j : Instance) : Prop :=
  ∃ s t, lib.find? i.name = some s ∧ j.name ∈ s.deps ∧ lib.find? j.name = some t ∧
    j.binding = if t.bound then i.binding else none

/-- `lib.Reaches requests i`: `i` is a request, or a request needs it directly or through other
instances. -/
def Reaches (lib : Library) (requests : List Instance) (i : Instance) : Prop :=
  ∃ r ∈ requests, ReflTransGen lib.Needs r i

/-- The subroutine of `i` is registered, and `i` has a binding exactly if it is bound. -/
def Fits (lib : Library) (i : Instance) : Prop :=
  ∃ s, lib.find? i.name = some s ∧ i.binding.isSome = s.bound

/-- `lib.Expands i js`: the dependencies of `i`, in the order of their declaration, are `js`. -/
def Expands (lib : Library) (i : Instance) (js : List Instance) : Prop :=
  ∃ s, lib.lookup i = .ok s ∧ s.deps.map (lib.dependency i) = js.map .ok

theorem lookup_of_find? {s : Subroutine} (hs : lib.find? i.name = some s) :
    lib.lookup i = if i.binding.isSome = s.bound then .ok s
      else .error (.bindingMismatch i.name (if s.bound then .missing else .superfluous)) := by
  unfold lookup
  rw [hs]
  cases hb : s.bound <;> cases hi : i.binding <;> simp [hb]

theorem lookup_eq_ok_iff {s : Subroutine} :
    lib.lookup i = .ok s ↔ lib.find? i.name = some s ∧ i.binding.isSome = s.bound := by
  cases ht : lib.find? i.name with
  | none => simp [lookup, ht]
  | some t =>
    rw [lookup_of_find? ht]
    constructor
    · intro h
      split at h
      · rename_i hb
        cases h
        exact ⟨rfl, hb⟩
      · cases h
    · rintro ⟨heq, hb⟩
      cases heq
      rw [if_pos hb]

theorem fits_iff : lib.Fits i ↔ ∃ s, lib.lookup i = .ok s := by
  simp only [Fits, lookup_eq_ok_iff]

theorem dependency_eq_ok_iff {name : String} :
    lib.dependency i name = .ok j ↔
      ∃ t, lib.find? name = some t ∧ (t.bound = true → i.binding.isSome = true) ∧
        j = ⟨name, if t.bound then i.binding else none⟩ := by
  unfold dependency
  cases ht : lib.find? name with
  | none => simp
  | some t =>
    simp only [Option.some.injEq, exists_eq_left']
    cases hb : t.bound <;> cases hi : i.binding <;> simp [eq_comm]

/-- Why an instance cannot be looked up. -/
theorem lookup_eq_error {e : Error} (h : lib.lookup i = .error e) :
    (lib.find? i.name = none ∧ e = .unknownSubroutine i.name) ∨
      ∃ s, lib.find? i.name = some s ∧ i.binding.isSome ≠ s.bound ∧
        e = .bindingMismatch i.name (if s.bound then .missing else .superfluous) := by
  cases hs : lib.find? i.name with
  | none =>
    rw [lookup, hs] at h
    exact .inl ⟨rfl, (Except.error.inj h).symm⟩
  | some s =>
    rw [lookup_of_find? hs] at h
    split at h
    · cases h
    · rename_i hb
      exact .inr ⟨s, rfl, hb, (Except.error.inj h).symm⟩

/-- Why a dependency stands for no instance. -/
theorem dependency_eq_error {name : String} {e : Error} (h : lib.dependency i name = .error e) :
    (lib.find? name = none ∧ e = .unknownSubroutine name) ∨
      ∃ t, lib.find? name = some t ∧ t.bound = true ∧ i.binding = none ∧
        e = .bindingMismatch name .notInherited := by
  unfold dependency at h
  cases ht : lib.find? name with
  | none =>
    rw [ht] at h
    exact .inl ⟨rfl, (Except.error.inj h).symm⟩
  | some t => cases hb : t.bound <;> cases hi : i.binding <;> simp_all

theorem needs_of_dependency {s : Subroutine} {name : String} (hs : lib.find? i.name = some s)
    (hname : name ∈ s.deps) (h : lib.dependency i name = .ok j) : lib.Needs i j := by
  obtain ⟨t, ht, -, rfl⟩ := dependency_eq_ok_iff.mp h
  exact ⟨s, t, hs, hname, ht, rfl⟩

theorem exists_lookup_of_dependency {name : String} (h : lib.dependency i name = .ok j) :
    ∃ t, lib.lookup j = .ok t := by
  obtain ⟨t, ht, hbound, rfl⟩ := dependency_eq_ok_iff.mp h
  refine ⟨t, lookup_eq_ok_iff.mpr ⟨ht, ?_⟩⟩
  cases hb : t.bound with
  | false => rfl
  | true => exact hbound hb

theorem mem_entries_of_find? {name : String} {s : Subroutine} (h : lib.find? name = some s) :
    (name, s) ∈ lib.entries :=
  Registry.mem_of_lookup h

theorem Fits.name_mem (h : lib.Fits i) : i.name ∈ lib.entries.map Prod.fst := by
  obtain ⟨s, hs, -⟩ := h
  exact List.mem_map_of_mem (mem_entries_of_find? hs)

/-- A needed instance has the binding of the one that needs it, or none. -/
theorem Needs.binding_eq (h : lib.Needs i j) : j.binding = i.binding ∨ j.binding = none := by
  obtain ⟨s, t, -, -, -, hb⟩ := h
  rw [hb]
  cases t.bound
  · exact .inr rfl
  · exact .inl rfl

theorem binding_eq_of_reflTransGen (h : ReflTransGen lib.Needs i j) :
    j.binding = i.binding ∨ j.binding = none := by
  induction h with
  | refl => exact .inl rfl
  | tail _ hstep ih =>
    rcases hstep.binding_eq with hb | hb
    · exact hb ▸ ih
    · exact .inr hb

/-- What can be reached from requests has the binding of one of them, or none. -/
theorem Reaches.exists_request {requests : List Instance} {key : String}
    (h : lib.Reaches requests i) (hkey : i.binding = some key) :
    ∃ r ∈ requests, r.binding = some key := by
  obtain ⟨r, hr, hreach⟩ := h
  rcases binding_eq_of_reflTransGen hreach with hb | hb
  · exact ⟨r, hr, hb.symm.trans hkey⟩
  · rw [hb] at hkey
    cases hkey

/-- On a path of dependencies a name stands for one instance. -/
theorem eq_of_reaches (h : ReflTransGen lib.Needs i j) (hi : lib.Fits i) (hj : lib.Fits j)
    (hname : i.name = j.name) : i = j := by
  obtain ⟨s, hs, hib⟩ := hi
  obtain ⟨t, ht, hjb⟩ := hj
  obtain rfl : s = t := Option.some.inj (hs.symm.trans (hname ▸ ht))
  have hbinding : i.binding = j.binding := by
    rcases binding_eq_of_reflTransGen h with hb | hb
    · exact hb.symm
    · rw [hb] at hjb ⊢
      simpa [← hjb] using hib
  cases i
  cases j
  simp_all

theorem Expands.mem_iff {js : List Instance} (h : lib.Expands i js) : j ∈ js ↔ lib.Needs i j := by
  obtain ⟨s, hs, hall⟩ := h
  have hfind := (lookup_eq_ok_iff.mp hs).1
  have hmem : j ∈ js ↔ ∃ name ∈ s.deps, lib.dependency i name = .ok j := by
    rw [← List.mem_map, hall]
    simp
  rw [hmem]
  constructor
  · rintro ⟨name, hname, hdep⟩
    exact needs_of_dependency hfind hname hdep
  · rintro ⟨s', t, hs', hname, ht, hbinding⟩
    obtain rfl : s = s' := Option.some.inj (hfind.symm.trans hs')
    have hok : ∃ k, lib.dependency i j.name = .ok k := by
      have hin : lib.dependency i j.name ∈ js.map .ok := hall ▸ List.mem_map_of_mem hname
      obtain ⟨k, -, hk⟩ := List.mem_map.mp hin
      exact ⟨k, hk.symm⟩
    obtain ⟨k, hk⟩ := hok
    obtain ⟨t', ht', hbound, rfl⟩ := dependency_eq_ok_iff.mp hk
    obtain rfl : t = t' := Option.some.inj (ht.symm.trans ht')
    exact ⟨j.name, hname, by rw [hk, ← hbinding]⟩

end TensorShader.Library
