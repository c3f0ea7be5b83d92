import TensorShader.Proofs.Plan.Moment
import TensorShader.Proofs.Plan.Resolve
import Mathlib.Data.List.Dedup

/-! How far a walk goes and how large its plan is. The names on the stack are different names of the
library, so the walk ends in every library. A plan holds an unbound subroutine once, and a bound one
once for each binding in the requests. -/

namespace TensorShader.Library

open Subroutine (Instance)

variable {lib : Library} {requests : List Instance} {frames : List Frame} {keys : List String}
  {p : Plan} {i : Instance} {key : String}

/-- The bindings of requests, each once. -/
def bindings (requests : List Instance) : List String := (requests.filterMap (·.binding)).dedup

/-- How many subroutines are bound, or how many are not. -/
def count (lib : Library) (bound : Bool) : Nat := lib.entries.countP (·.2.bound == bound)

/-- The instances that fit the library and have their bindings among keys. -/
def instancesOf (keys : List String) : List (String × Subroutine) → List Instance
  | [] => []
  | (name, s) :: entries =>
    (if s.bound then keys.map (⟨name, some ·⟩) else [⟨name, none⟩]) ++ instancesOf keys entries

theorem mem_bindings : key ∈ bindings requests ↔ ∃ r ∈ requests, r.binding = some key := by
  rw [bindings, List.mem_dedup, List.mem_filterMap]

theorem length_instancesOf (keys : List String) (entries : List (String × Subroutine)) :
    (instancesOf keys entries).length =
      entries.countP (·.2.bound == false) + entries.countP (·.2.bound == true) * keys.length := by
  induction entries with
  | nil => simp [instancesOf]
  | cons e entries ih =>
    obtain ⟨name, s⟩ := e
    cases hb : s.bound with
    | false =>
      simp [instancesOf, hb, ih]
      omega
    | true =>
      simp [instancesOf, hb, ih, Nat.add_mul]
      omega

theorem mem_instancesOf {entries : List (String × Subroutine)} {s : Subroutine}
    (hs : (i.name, s) ∈ entries) (hbound : i.binding.isSome = s.bound)
    (hkeys : ∀ key, i.binding = some key → key ∈ keys) : i ∈ instancesOf keys entries := by
  induction entries with
  | nil => cases hs
  | cons e entries ih =>
    rw [instancesOf, List.mem_append]
    rcases List.mem_cons.mp hs with rfl | hs
    · left
      obtain ⟨name, binding⟩ := i
      cases binding with
      | none =>
        rw [← hbound]
        exact List.mem_singleton_self _
      | some key =>
        rw [← hbound]
        exact List.mem_map_of_mem (hkeys key rfl)
    · exact .inr (ih hs)

/-- Different instances that fit the library are not more than its unbound subroutines and its
bound ones for each of their bindings. -/
theorem length_le_of_fits {is : List Instance} (hnodup : is.Nodup) (hfits : ∀ i ∈ is, lib.Fits i)
    (hkeys : ∀ i ∈ is, ∀ key, i.binding = some key → key ∈ keys) :
    is.length ≤ lib.count false + lib.count true * keys.length := by
  have hsub : is ⊆ instancesOf keys lib.entries := fun i hi => by
    obtain ⟨s, hs, hbound⟩ := hfits i hi
    exact mem_instancesOf (mem_entries_of_find? hs) hbound (hkeys i hi)
  have hle := List.Nodup.length_le_of_subset hnodup hsub
  rw [length_instancesOf] at hle
  exact hle

theorem size_le_of_resolve (h : lib.resolve requests = .ok p) :
    p.size ≤ lib.count false + lib.count true * (bindings requests).length := by
  have hreach : ∀ i ∈ p.instances, lib.Reaches requests i := fun i hi =>
    (mem_instances_iff h).mp hi
  refine length_le_of_fits (resolve_grown h).inOrder.nodup
    (fun i hi => (sound_of_resolve h).fits_of_reaches (hreach i hi)) fun i hi key hkey => ?_
  exact mem_bindings.mpr ((hreach i hi).exists_request hkey)

theorem Stacked.length_le (h : lib.Stacked requests frames) : frames.length ≤ lib.size := by
  have hsub : (frames.map (·.inst)).map (·.name) ⊆ lib.entries.map Prod.fst := fun name hname => by
    obtain ⟨i, hi, rfl⟩ := List.mem_map.mp hname
    exact (h.fits hi).name_mem
  have hle := List.Nodup.length_le_of_subset h.names_nodup hsub
  simpa [Registry.size] using hle

/-- Every walk ends with what resolution results in. At every moment the names on its stack are
different names of the library, not more than there are. A plan is not larger than the number of
unbound subroutines and that of bound ones for each binding in the requests. -/
theorem walk_bounded (lib : Library) (requests : List Instance) :
    (∀ x, lib.Leads (.ok (.start requests)) x →
      lib.Leads x (Moment.final <$> lib.resolve requests)) ∧
    (∀ m, lib.Leads (.ok (.start requests)) (.ok m) →
      (m.stack.map (·.name)).Nodup ∧ (∀ i ∈ m.stack, lib.contains i.name = true) ∧
        m.stack.length ≤ lib.size) ∧
    ∀ p, lib.resolve requests = .ok p →
      p.size ≤ lib.count false + lib.count true * (bindings requests).length := by
  refine ⟨fun x hx => hx.resolve, fun m hm => ?_, fun p hp => size_le_of_resolve hp⟩
  have hstacked := (Invariant.of_leads hm).stacked
  refine ⟨hstacked.names_nodup, fun i hi => ?_, ?_⟩
  · obtain ⟨s, hs, -⟩ := hstacked.fits hi
    rw [Registry.contains, hs]
    rfl
  · rw [Moment.stack, List.length_map]
    exact hstacked.length_le

end TensorShader.Library
