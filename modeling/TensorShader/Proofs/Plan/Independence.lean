import TensorShader.Proofs.Plan.Append

/-! Bindings do not interfere. The instances that a plan has for an operand, and their order, are
those of the plan for that operand's requests alone, whatever else is requested and in which
order. -/

namespace TensorShader

open Subroutine (Instance)

namespace Library

variable {lib : Library} {requests : List Instance} {p q : Plan} {r : Instance} {key : String}

/-- The requests with a binding, in order. -/
def requestsFor (key : String) (requests : List Instance) : List Instance :=
  requests.filter (·.binding == some key)

theorem mem_instancesFor {i : Instance} :
    i ∈ p.instancesFor key ↔ i ∈ p.instances ∧ i.binding = some key := by
  rw [Plan.instancesFor, List.mem_filter, beq_iff_eq]

/-- A plan is extended for each operand on its own. -/
theorem instancesFor_extend (p q : Plan) (key : String) :
    (p.extend q).instancesFor key = Plan.merge (p.instancesFor key) (q.instancesFor key) := by
  show (p.instances ++ q.instances.filter (· ∉ p.instances)).filter (·.binding == some key) =
    p.instancesFor key ++ (q.instancesFor key).filter (· ∉ p.instancesFor key)
  rw [List.filter_append, List.filter_filter, Plan.instancesFor, Plan.instancesFor,
    List.filter_filter]
  refine congrArg _ (List.filter_congr fun i _ => ?_)
  -- an instance for the operand is in the plan exactly if it is among those for the operand
  cases hi : i.binding == some key with
  | false => simp
  | true => simp [hi]

theorem resolve_cons_of_ok (h : lib.resolve (r :: requests) = .ok p) :
    ∃ first rest, lib.resolve [r] = .ok first ∧ lib.resolve requests = .ok rest ∧
      p = first.extend rest := by
  have happend : lib.resolve ([r] ++ requests) = .ok p := h
  cases hfirst : lib.resolve [r] with
  | error e =>
    rw [resolve_append_of_error hfirst] at happend
    cases happend
  | ok first =>
    rw [resolve_append_of_ok hfirst] at happend
    obtain ⟨rest, hrest, rfl⟩ := map_eq_ok_iff.mp happend
    exact ⟨first, rest, rfl, hrest, rfl⟩

/-- A request brings no instances for operands other than its own. -/
theorem instancesFor_eq_nil (h : lib.resolve [r] = .ok p) (hr : r.binding ≠ some key) :
    p.instancesFor key = [] := by
  refine List.eq_nil_iff_forall_not_mem.mpr fun i hi => ?_
  obtain ⟨hi, hkey⟩ := mem_instancesFor.mp hi
  obtain ⟨r', hr', hbinding⟩ := ((mem_instances_iff h).mp hi).exists_request hkey
  obtain rfl := List.mem_singleton.mp hr'
  exact hr hbinding

/-- The requests for an operand have a plan, with the same instances for it. -/
theorem resolve_requestsFor (h : lib.resolve requests = .ok p) (key : String) :
    ∃ q, lib.resolve (requestsFor key requests) = .ok q ∧
      q.instancesFor key = p.instancesFor key := by
  induction requests generalizing p with
  | nil => exact ⟨p, h, rfl⟩
  | cons r requests ih =>
    obtain ⟨first, rest, hfirst, hrest, rfl⟩ := resolve_cons_of_ok h
    obtain ⟨q, hq, heq⟩ := ih hrest
    by_cases hr : r.binding = some key
    · have hcons : requestsFor key (r :: requests) = [r] ++ requestsFor key requests := by
        simp [requestsFor, hr]
      refine ⟨first.extend q, ?_, ?_⟩
      · rw [hcons, resolve_append_of_ok hfirst, hq]
        rfl
      · rw [instancesFor_extend, instancesFor_extend, heq]
    · have hcons : requestsFor key (r :: requests) = requestsFor key requests := by
        simp [requestsFor, hr]
      refine ⟨q, hcons ▸ hq, ?_⟩
      rw [instancesFor_extend, instancesFor_eq_nil hfirst hr, heq]
      simp [Plan.merge]

/-- Every binding in a plan is that of a request. For each operand the requests for it alone have a
plan with the same instances for it, in the same order, and so do any other requests of which those
for the operand are the same. -/
theorem bindings_independent (h : lib.resolve requests = .ok p) :
    (∀ i ∈ p.instances, ∀ key, i.binding = some key → ∃ r ∈ requests, r.binding = some key) ∧
    ∀ key, (∃ q, lib.resolve (requestsFor key requests) = .ok q ∧
        q.instancesFor key = p.instancesFor key) ∧
      ∀ others q, lib.resolve others = .ok q →
        requestsFor key others = requestsFor key requests →
          q.instancesFor key = p.instancesFor key := by
  refine ⟨fun i hi key hkey => ((mem_instances_iff h).mp hi).exists_request hkey,
    fun key => ⟨resolve_requestsFor h key, fun others q hothers hsame => ?_⟩⟩
  obtain ⟨q₁, hq₁, heq₁⟩ := resolve_requestsFor h key
  obtain ⟨q₂, hq₂, heq₂⟩ := resolve_requestsFor hothers key
  rw [hsame, hq₁] at hq₂
  obtain rfl := Except.ok.inj hq₂
  exact heq₂.symm.trans heq₁

/-- The instances for `x` are the same after those for `y` as without them, though what both need
is planned before the first of either. -/
theorem bindings_independent_diamond :
    ∃ p q, diamond.resolve [⟨"read", some "y"⟩, ⟨"frame", none⟩, ⟨"read", some "x"⟩] = .ok p ∧
      diamond.resolve [⟨"read", some "x"⟩] = .ok q ∧
      p.instancesFor "x" = [⟨"texture", some "x"⟩, ⟨"texel", some "x"⟩, ⟨"read", some "x"⟩] ∧
      q.instancesFor "x" = p.instancesFor "x" := by
  have h : diamond.resolve [⟨"read", some "y"⟩, ⟨"frame", none⟩, ⟨"read", some "x"⟩] =
      .ok ⟨[⟨"frame", none⟩, ⟨"texture", some "y"⟩, ⟨"texel", some "y"⟩, ⟨"read", some "y"⟩,
        ⟨"texture", some "x"⟩, ⟨"texel", some "x"⟩, ⟨"read", some "x"⟩]⟩ := by decide
  obtain ⟨q, hq, heq⟩ := ((bindings_independent h).2 "x").1
  exact ⟨_, q, h, hq, by decide, heq⟩

end Library

end TensorShader
