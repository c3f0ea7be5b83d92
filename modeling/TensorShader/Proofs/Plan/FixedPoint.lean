import TensorShader.Proofs.Plan.Append

/-! Plans as requests. The instances of a plan, requested in their order, need nothing besides, so a
list of instances is its own plan exactly if it is in dependency order. A plan is in that order, and
so is every beginning of it. -/

namespace TensorShader.Library

open Subroutine (Instance)

variable {lib : Library} {requests planned js q : List Instance} {p : Plan} {i : Instance}

theorem InOrder.of_prefix (h : lib.InOrder planned) (hq : q <+: planned) : lib.InOrder q := by
  induction h with
  | empty =>
    obtain rfl := List.prefix_nil.mp hq
    exact .empty
  | add hplanned hnew hjs hsub ih =>
    rcases List.prefix_concat_iff.mp hq with rfl | hq
    · exact .add hplanned hnew hjs hsub
    · exact ih hq

/-- A visit of a new instance adds nothing else if what the instance needs is planned. -/
theorem visit_of_expanded (hnew : i ∉ planned) (hjs : lib.Expands i js) (hsub : js ⊆ planned) :
    lib.visit lib.size [] planned i = .ok (planned ++ [i]) := by
  obtain ⟨s, hlookup, hdeps⟩ := hjs
  have hroom : 0 < lib.size :=
    Trail.start.length_lt_size List.not_mem_nil (fits_iff.mpr ⟨s, hlookup⟩)
  obtain ⟨room, hsize⟩ := Nat.exists_eq_succ_of_ne_zero (Nat.ne_of_gt hroom)
  have hwalk : lib.visitDeps room [] i planned s.deps = .ok planned :=
    foldlM_bind_eq_ok_iff.mpr ⟨js, hdeps, foldlM_visit_planned hsub⟩
  rw [hsize, visit_succ hnew List.not_mem_nil hlookup, hwalk]
  rfl

/-- Instances in dependency order are the plan for themselves. -/
theorem InOrder.resolve_eq (h : lib.InOrder planned) : lib.resolve planned = .ok ⟨planned⟩ := by
  -- the instances before the last one, once requested, are what the last one is visited after
  induction h with
  | empty => rfl
  | @add planned js i _ hnew hjs hsub ih =>
    obtain ⟨known, hwalk, hknown⟩ := map_eq_ok_iff.mp ih
    obtain rfl := Plan.mk.inj hknown
    have hlast : [i].foldlM (lib.visit lib.size []) known = .ok (known ++ [i]) :=
      foldlM_cons_eq_ok_iff.mpr ⟨_, visit_of_expanded hnew hjs hsub, rfl⟩
    rw [resolve, List.foldlM_append, hwalk]
    exact map_eq_ok_iff.mpr ⟨_, hlast, rfl⟩

theorem resolve_eq_self_iff : lib.resolve planned = .ok ⟨planned⟩ ↔ lib.InOrder planned :=
  ⟨fun h => (resolve_grown h).inOrder, InOrder.resolve_eq⟩

/-- The instances of a plan, requested in their order, have that plan, and the first of them, as
many as are requested, have themselves as their plan. -/
theorem resolve_plan (h : lib.resolve requests = .ok p) :
    lib.resolve p.instances = .ok p ∧ ∀ q, q <+: p.instances → lib.resolve q = .ok ⟨q⟩ := by
  have hinOrder : lib.InOrder p.instances := (resolve_grown h).inOrder
  exact ⟨hinOrder.resolve_eq, fun q hq => (hinOrder.of_prefix hq).resolve_eq⟩

/-- A plan in which the dependencies of one request stand before those of another. -/
theorem resolve_plan_diamond :
    ∃ p, diamond.resolve [⟨"read", some "y"⟩, ⟨"texel", some "x"⟩] = .ok p ∧
      diamond.resolve p.instances = .ok p ∧
      diamond.resolve [⟨"frame", none⟩, ⟨"texture", some "y"⟩, ⟨"texel", some "y"⟩] =
        .ok ⟨[⟨"frame", none⟩, ⟨"texture", some "y"⟩, ⟨"texel", some "y"⟩]⟩ := by
  have h : diamond.resolve [⟨"read", some "y"⟩, ⟨"texel", some "x"⟩] =
      .ok ⟨[⟨"frame", none⟩, ⟨"texture", some "y"⟩, ⟨"texel", some "y"⟩, ⟨"read", some "y"⟩,
        ⟨"texture", some "x"⟩, ⟨"texel", some "x"⟩]⟩ := by decide
  obtain ⟨hagain, hstart⟩ := resolve_plan h
  exact ⟨_, h, hagain, hstart _ (by decide)⟩

end TensorShader.Library
