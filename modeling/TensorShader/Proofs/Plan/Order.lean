import TensorShader.Proofs.Plan.Dependency

/-! Lists of instances in dependency order: each instance once, and after all that it needs. Such a
list holds what can be reached from its members, and none of them can be reached from itself. -/

namespace TensorShader.Library

open Subroutine (Instance)
open Relation (ReflTransGen TransGen)

/-- The instances of `planned` have been added one at a time, each for the first time and after all
its dependencies. -/
inductive InOrder (lib : Library) : List Instance → Prop
  | empty : InOrder lib []
  | add {planned js : List Instance} {i : Instance} : InOrder lib planned → i ∉ planned →
      lib.Expands i js → js ⊆ planned → InOrder lib (planned ++ [i])

namespace InOrder

variable {lib : Library} {planned : List Instance} {i j : Instance}

theorem nodup (h : lib.InOrder planned) : planned.Nodup := by
  induction h with
  | empty => exact .nil
  | add _ hnew _ _ ih =>
    rw [List.nodup_append]
    refine ⟨ih, by simp, fun a ha b hb => ?_⟩
    rw [List.mem_singleton] at hb
    rintro rfl
    exact hnew (hb ▸ ha)

theorem expands (h : lib.InOrder planned) (hi : i ∈ planned) : ∃ js, lib.Expands i js := by
  induction h with
  | empty => cases hi
  | add _ _ hjs _ ih =>
    rcases List.mem_append.mp hi with hi | hi
    · exact ih hi
    · rw [List.mem_singleton] at hi
      exact ⟨_, hi ▸ hjs⟩

/-- What an instance needs stands at a smaller position. -/
theorem earlier (h : lib.InOrder planned) {k : Nat} (hk : planned[k]? = some i)
    (hij : lib.Needs i j) : ∃ m < k, planned[m]? = some j := by
  induction h generalizing k with
  | empty => simp at hk
  | @add planned js a _ _ hjs hsub ih =>
    by_cases hlt : k < planned.length
    · rw [List.getElem?_append_left hlt] at hk
      obtain ⟨m, hm, hj⟩ := ih hk
      exact ⟨m, hm, by rw [List.getElem?_append_left (by omega), hj]⟩
    · obtain rfl : a = i := by
        rw [List.getElem?_append_right (by omega)] at hk
        exact (List.mem_singleton.mp (List.mem_of_getElem? hk)).symm
      obtain ⟨m, hm⟩ := List.mem_iff_getElem?.mp (hsub (hjs.mem_iff.mpr hij))
      have hlen := (List.getElem?_eq_some_iff.mp hm).1
      exact ⟨m, by omega, by rw [List.getElem?_append_left hlen, hm]⟩

/-- What can be reached from an instance in one or more steps stands at a smaller position. -/
theorem earlier_of_transGen (h : lib.InOrder planned) {k : Nat} (hk : planned[k]? = some i)
    (hij : TransGen lib.Needs i j) : ∃ m < k, planned[m]? = some j := by
  induction hij with
  | single hij => exact h.earlier hk hij
  | tail _ hstep ih =>
    obtain ⟨m, hm, hj⟩ := ih
    obtain ⟨m', hm', hj'⟩ := h.earlier hj hstep
    exact ⟨m', by omega, hj'⟩

theorem mem_of_reflTransGen (h : lib.InOrder planned) (hi : i ∈ planned)
    (hij : ReflTransGen lib.Needs i j) : j ∈ planned := by
  obtain ⟨k, hk⟩ := List.mem_iff_getElem?.mp hi
  rcases Relation.reflTransGen_iff_eq_or_transGen.mp hij with rfl | hij
  · exact hi
  · obtain ⟨m, -, hm⟩ := h.earlier_of_transGen hk hij
    exact List.mem_of_getElem? hm

theorem acyclic (h : lib.InOrder planned) (hi : i ∈ planned) : ¬TransGen lib.Needs i i := by
  intro hii
  obtain ⟨k, hk⟩ := List.mem_iff_getElem?.mp hi
  obtain ⟨m, hm, hmk⟩ := h.earlier_of_transGen hk hii
  have hlen := (List.getElem?_eq_some_iff.mp hk).1
  obtain rfl : k = m := (List.getElem?_inj hlen h.nodup).mp (hk.trans hmk.symm)
  exact Nat.lt_irrefl k hm

end InOrder

/-- What a walk over `js` below `stack` adds to the instances `planned`: the result `q` is in order,
starts with `planned`, contains `js`, and everything new in it can be reached from `js` and is not
on the stack. -/
structure Grown (lib : Library) (stack js planned q : List Instance) : Prop where
  inOrder : lib.InOrder q
  starts : planned <+: q
  fresh : ∀ x ∈ q, x ∈ planned ∨ (x ∉ stack ∧ lib.Reaches js x)
  holds : js ⊆ q

namespace Grown

variable {lib : Library} {stack js planned q m : List Instance} {i j : Instance}

theorem refl (h : lib.InOrder planned) : lib.Grown stack [] planned planned :=
  ⟨h, List.prefix_rfl, fun _ hx => .inl hx, List.nil_subset planned⟩

/-- An instance that is planned already. -/
theorem already (h : lib.InOrder planned) (hi : i ∈ planned) :
    lib.Grown stack [i] planned planned :=
  ⟨h, List.prefix_rfl, fun _ hx => .inl hx, List.cons_subset.mpr ⟨hi, List.nil_subset planned⟩⟩

/-- One walk after another. -/
theorem cons (h1 : lib.Grown stack [j] planned m) (h2 : lib.Grown stack js m q) :
    lib.Grown stack (j :: js) planned q := by
  refine ⟨h2.inOrder, h1.starts.trans h2.starts, fun x hx => ?_, ?_⟩
  · rcases h2.fresh x hx with hx | ⟨hs, r, hr, hreach⟩
    · rcases h1.fresh x hx with hx | ⟨hs, r, hr, hreach⟩
      · exact .inl hx
      · rw [List.mem_singleton] at hr
        exact .inr ⟨hs, r, hr ▸ List.mem_cons_self, hreach⟩
    · exact .inr ⟨hs, r, List.mem_cons_of_mem j hr, hreach⟩
  · rw [List.cons_subset]
    exact ⟨h2.starts.subset (h1.holds List.mem_cons_self), h2.holds⟩

/-- An instance after its dependencies, during whose walk it is on the stack. -/
theorem push (h : lib.Grown (i :: stack) js planned q) (hjs : lib.Expands i js)
    (hplanned : i ∉ planned) (hstack : i ∉ stack) :
    lib.Grown stack [i] planned (q ++ [i]) := by
  have hnew : i ∉ q := fun hi => by
    rcases h.fresh i hi with hi | ⟨hi, -⟩
    · exact hplanned hi
    · exact hi List.mem_cons_self
  refine ⟨.add h.inOrder hnew hjs h.holds, h.starts.trans (List.prefix_append q [i]),
    fun x hx => ?_, List.cons_subset.mpr ⟨by simp, List.nil_subset _⟩⟩
  rcases List.mem_append.mp hx with hx | hx
  · rcases h.fresh x hx with hx | ⟨hs, r, hr, hreach⟩
    · exact .inl hx
    · exact .inr ⟨fun hmem => hs (List.mem_cons_of_mem i hmem), i, List.mem_cons_self,
        .head (hjs.mem_iff.mp hr) hreach⟩
  · rw [List.mem_singleton] at hx
    subst hx
    exact .inr ⟨hstack, x, List.mem_cons_self, .refl⟩

end Grown

end TensorShader.Library
