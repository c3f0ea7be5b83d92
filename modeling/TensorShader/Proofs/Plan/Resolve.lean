import TensorShader.Proofs.Plan.Walk

/-! Resolution of requests. A plan is the closure of the requests under dependency, each instance
once and after what it needs. There is a plan exactly if the requests fit, every dependency that can
be reached from them stands for an instance, and no instance that can be reached from them can be
reached from itself. -/

namespace TensorShader.Library

open Subroutine (Instance)
open Relation (ReflTransGen TransGen)

variable {lib : Library} {requests stack : List Instance} {p : Plan} {r i j : Instance} {e : Error}

/-- A plan holds the requests and what they need, in order. -/
theorem resolve_grown (h : lib.resolve requests = .ok p) :
    lib.Grown [] requests [] p.instances := by
  obtain ⟨q, hq, rfl⟩ := map_eq_ok_iff.mp h
  exact foldlM_visit_grown (fun _ _ _ _ hm hj => visit_grown hm hj) .empty hq

/-- Resolution fails because the visit of a request does. -/
theorem resolve_raises (h : lib.resolve requests = .error e) :
    ∃ r ∈ requests, lib.Raises [] r e := by
  obtain ⟨r, hr, m, hm⟩ := foldlM_eq_error (map_eq_error_iff.mp h)
  exact ⟨r, hr, visit_raises .start (by simp) hm⟩

theorem mem_instances_iff (h : lib.resolve requests = .ok p) :
    i ∈ p.instances ↔ lib.Reaches requests i := by
  have hgrown := resolve_grown h
  constructor
  · intro hi
    rcases hgrown.fresh i hi with hi | ⟨-, hreach⟩
    · cases hi
    · exact hreach
  · rintro ⟨r, hr, hreach⟩
    exact hgrown.inOrder.mem_of_reflTransGen (hgrown.holds hr) hreach

theorem exists_lookup_of_mem (h : lib.resolve requests = .ok p) (hi : i ∈ p.instances) :
    ∃ s, lib.lookup i = .ok s := by
  obtain ⟨_, s, hs, -⟩ := (resolve_grown h).inOrder.expands hi
  exact ⟨s, hs⟩

/-- The instances of a plan are different, they are those that can be reached from the requests,
and what an instance needs stands at a smaller position. -/
theorem resolve_closure (h : lib.resolve requests = .ok p) :
    p.instances.Nodup ∧ (∀ i, i ∈ p.instances ↔ lib.Reaches requests i) ∧
      ∀ (k : Nat) (i j : Instance), p.instances[k]? = some i → lib.Needs i j →
        ∃ m < k, p.instances[m]? = some j := by
  have hgrown := resolve_grown h
  refine ⟨hgrown.inOrder.nodup, fun i => mem_instances_iff h, fun k i j hk hij => ?_⟩
  exact hgrown.inOrder.earlier hk hij

/-- A bound subroutine that needs another one directly and through a third, and a frame that all of
them need once. -/
def diamond : Library := .ofList [
  ("read", ⟨"read", true, ["texel", "texture", "frame"], ""⟩),
  ("texel", ⟨"texel", true, ["frame", "texture"], ""⟩),
  ("texture", ⟨"texture", true, ["frame"], ""⟩),
  ("frame", ⟨"frame", false, [], ""⟩)]

/-- Requests for one operand and for another, which share an unbound subroutine. -/
theorem resolve_closure_diamond :
    ∃ p, diamond.resolve [⟨"texel", some "x"⟩, ⟨"read", some "y"⟩, ⟨"read", some "x"⟩] = .ok p ∧
      p.instances = [⟨"frame", none⟩, ⟨"texture", some "x"⟩, ⟨"texel", some "x"⟩,
        ⟨"texture", some "y"⟩, ⟨"texel", some "y"⟩, ⟨"read", some "y"⟩, ⟨"read", some "x"⟩] ∧
      p.instances.Nodup ∧
      (∀ i, i ∈ p.instances ↔ diamond.Reaches
        [⟨"texel", some "x"⟩, ⟨"read", some "y"⟩, ⟨"read", some "x"⟩] i) ∧
      ∀ (k : Nat) (i j : Instance), p.instances[k]? = some i → diamond.Needs i j →
        ∃ m < k, p.instances[m]? = some j := by
  have h : diamond.resolve [⟨"texel", some "x"⟩, ⟨"read", some "y"⟩, ⟨"read", some "x"⟩] =
      .ok ⟨[⟨"frame", none⟩, ⟨"texture", some "x"⟩, ⟨"texel", some "x"⟩, ⟨"texture", some "y"⟩,
        ⟨"texel", some "y"⟩, ⟨"read", some "y"⟩, ⟨"read", some "x"⟩]⟩ := by decide
  exact ⟨_, h, rfl, resolve_closure h⟩

/-- `lib.Sound requests`: the requests fit, the dependencies that can be reached from them stand
for instances, and none of what can be reached from them can be reached from itself. -/
structure Sound (lib : Library) (requests : List Instance) : Prop where
  fits : ∀ r ∈ requests, lib.Fits r
  dependency : ∀ i, lib.Reaches requests i → ∀ s, lib.find? i.name = some s → ∀ name ∈ s.deps,
    ∃ t, lib.find? name = some t ∧ (t.bound = true → i.binding.isSome = true)
  acyclic : ∀ i, lib.Reaches requests i → ¬TransGen lib.Needs i i

theorem sound_of_resolve (h : lib.resolve requests = .ok p) : lib.Sound requests := by
  have hgrown := resolve_grown h
  have hexpands : ∀ i, lib.Reaches requests i → ∃ js, lib.Expands i js := fun i hi =>
    hgrown.inOrder.expands ((mem_instances_iff h).mpr hi)
  refine ⟨fun r hr => ?_, fun i hi s hs name hname => ?_, fun i hi => ?_⟩
  · obtain ⟨js, s, hs, -⟩ := hexpands r ⟨r, hr, .refl⟩
    exact fits_iff.mpr ⟨s, hs⟩
  · obtain ⟨js, s', hs', hdeps⟩ := hexpands i hi
    obtain rfl : s = s' := Option.some.inj (hs.symm.trans (lookup_eq_ok_iff.mp hs').1)
    have hmem : lib.dependency i name ∈ js.map .ok := hdeps ▸ List.mem_map_of_mem hname
    obtain ⟨j, -, hj⟩ := List.mem_map.mp hmem
    obtain ⟨t, ht, hbound, -⟩ := dependency_eq_ok_iff.mp hj.symm
    exact ⟨t, ht, hbound⟩
  · exact hgrown.inOrder.acyclic ((mem_instances_iff h).mpr hi)

namespace Sound

/-- Everything that can be reached from sound requests fits its subroutine. -/
theorem fits_of_reaches (h : lib.Sound requests) (hi : lib.Reaches requests i) : lib.Fits i := by
  obtain ⟨r, hr, hreach⟩ := hi
  induction hreach with
  | refl => exact h.fits r hr
  | tail hpath hstep _ =>
    obtain ⟨s, t, hs, hname, ht, hbinding⟩ := hstep
    obtain ⟨t', ht', hbound⟩ := h.dependency _ ⟨r, hr, hpath⟩ s hs _ hname
    obtain rfl : t = t' := Option.some.inj (ht.symm.trans ht')
    refine ⟨t, ht, ?_⟩
    rw [hbinding]
    cases hb : t.bound with
    | false => rfl
    | true => exact hbound hb

/-- A walk from sound requests does not fail: its stack holds only what leads to the instance that
is visited, so a planned instance that is met again is not on it. -/
theorem not_raises (h : lib.Sound requests) (hr : r ∈ requests) (htrail : lib.Trail r stack i) :
    ¬lib.Raises stack i e := by
  intro hraises
  have hreach : ∀ {stack i}, lib.Trail r stack i → lib.Reaches requests i := fun htrail =>
    ⟨r, hr, htrail.reaches⟩
  induction hraises with
  | cycle hs => exact h.acyclic _ (hreach htrail) (htrail.transGen hs)
  | lookup hs hl =>
    obtain ⟨s, hok⟩ := fits_iff.mp (h.fits_of_reaches (hreach htrail))
    rw [hok] at hl
    cases hl
  | dependency hs hl hname hdep =>
    obtain ⟨t, ht, hbound⟩ :=
      h.dependency _ (hreach htrail) _ (lookup_eq_ok_iff.mp hl).1 _ hname
    rw [dependency_eq_ok_iff.mpr ⟨t, ht, hbound, rfl⟩] at hdep
    cases hdep
  | inner hs hfits hneeds _ ih => exact ih (.push htrail hs hfits hneeds)

end Sound

/-- A visit that fails with a cycle found an instance that can be reached from itself. -/
theorem Raises.exists_transGen (h : lib.Raises stack i e) (htrail : lib.Trail r stack i)
    {path : List Instance} (he : e = .subroutineCycle path) :
    ∃ j, ReflTransGen lib.Needs r j ∧ TransGen lib.Needs j j := by
  induction h with
  | cycle hs => exact ⟨_, htrail.reaches, htrail.transGen hs⟩
  | lookup _ hl =>
    subst he
    rcases lookup_eq_error hl with ⟨-, he⟩ | ⟨s, -, -, he⟩ <;> cases he
  | dependency _ _ _ hdep =>
    subst he
    rcases dependency_eq_error hdep with ⟨-, he⟩ | ⟨t, -, -, -, he⟩ <;> cases he
  | inner hs hfits hneeds _ ih => exact ih (.push htrail hs hfits hneeds) he

/-- There is a plan exactly for sound requests, and a cycle is reported only if one can be reached
from the requests. Neither what the library has besides nor instances that are needed along several
paths make a request fail. -/
theorem resolve_succeeds_iff (lib : Library) (requests : List Instance) :
    ((∃ p, lib.resolve requests = .ok p) ↔ lib.Sound requests) ∧
      ∀ path, lib.resolve requests = .error (.subroutineCycle path) →
        ∃ i, lib.Reaches requests i ∧ TransGen lib.Needs i i := by
  refine ⟨⟨fun ⟨p, h⟩ => sound_of_resolve h, fun hsound => ?_⟩, fun path h => ?_⟩
  · cases h : lib.resolve requests with
    | ok p => exact ⟨p, rfl⟩
    | error e =>
      obtain ⟨r, hr, hraises⟩ := resolve_raises h
      exact absurd hraises (hsound.not_raises hr .start)
  · obtain ⟨r, hr, hraises⟩ := resolve_raises h
    obtain ⟨j, hreach, hcycle⟩ := hraises.exists_transGen .start rfl
    exact ⟨j, ⟨r, hr, hreach⟩, hcycle⟩

end TensorShader.Library
