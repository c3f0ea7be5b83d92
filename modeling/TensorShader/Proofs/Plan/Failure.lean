import TensorShader.Proofs.Plan.Moment
import Mathlib.Data.List.Chain
import Mathlib.Data.List.Nodup

/-! What the errors of resolution say. A reported cycle is a cycle of dependencies, through different
instances, that can be reached from the requests; an unknown name is not registered and is asked for
by a request or by something that can be reached from one; and the bindings that do not fit are those
of a request, or one that is missing where a dependency would take it over. -/

namespace TensorShader.Library

open Subroutine (Instance)

variable {lib : Library} {requests stack : List Instance} {r i : Instance} {e : Error}

/-- `lib.HasFault requests e text`: the error `e`, which reads `text`, is about something that is
wrong with the requests or with what can be reached from them. -/
inductive HasFault (lib : Library) (requests : List Instance) : Error → String → Prop
  /-- Different instances, each of which needs the next one, and the last of them the first. -/
  | cycle {i : Instance} {is : List Instance} : lib.Reaches requests i → (i :: is).Nodup →
      (i :: is ++ [i]).IsChain lib.Needs →
      HasFault lib requests (.subroutineCycle (i :: is ++ [i]))
        ("subroutine dependency cycle: " ++ " -> ".intercalate ((i :: is ++ [i]).map (·.display)))
  /-- A request for a subroutine that is not registered. -/
  | unknownRequest {i : Instance} : i ∈ requests → lib.find? i.name = none →
      HasFault lib requests (.unknownSubroutine i.name) ("unknown subroutine `" ++ i.name ++ "`")
  /-- A dependency on a subroutine that is not registered. -/
  | unknownDependency {i : Instance} {s : Subroutine} {name : String} :
      lib.Reaches requests i → lib.find? i.name = some s → name ∈ s.deps →
      lib.find? name = none →
      HasFault lib requests (.unknownSubroutine name) ("unknown subroutine `" ++ name ++ "`")
  /-- A request for a bound subroutine, without a binding. -/
  | missing {i : Instance} {s : Subroutine} : i ∈ requests → lib.find? i.name = some s →
      s.bound = true → i.binding = none →
      HasFault lib requests (.bindingMismatch i.name .missing)
        ("subroutine `" ++ i.name ++ "`: " ++ "requires a tensor binding")
  /-- A request for an unbound subroutine, with a binding. -/
  | superfluous {i : Instance} {s : Subroutine} : i ∈ requests → lib.find? i.name = some s →
      s.bound = false → i.binding.isSome = true →
      HasFault lib requests (.bindingMismatch i.name .superfluous)
        ("subroutine `" ++ i.name ++ "`: " ++ "does not take a tensor binding")
  /-- A dependency of an unbound subroutine on a bound one. -/
  | notInherited {i : Instance} {s t : Subroutine} {name : String} :
      lib.Reaches requests i → lib.find? i.name = some s → s.bound = false → i.binding = none →
      name ∈ s.deps → lib.find? name = some t → t.bound = true →
      HasFault lib requests (.bindingMismatch name .notInherited)
        ("subroutine `" ++ name ++ "`: " ++
          "needed by an unbound subroutine, no binding to inherit")

/-- A cycle is reported from the instance that is met again, upwards on the stack. -/
theorem cycle_append {above : List Instance} (h : i ∉ above) (below : List Instance) :
    cycle (above ++ i :: below) i = i :: above.reverse ++ [i] := by
  have habove : ∀ a ∈ above, decide (a ≠ i) = true := fun a ha =>
    decide_eq_true fun heq => h (heq ▸ ha)
  rw [cycle, List.takeWhile_append_of_pos habove]
  simp

/-- From the top of the stack down, each instance is needed by the next one. -/
theorem Trail.isChain (h : lib.Trail r stack i) :
    (i :: stack).IsChain fun a b => lib.Needs b a := by
  induction h with
  | start => exact .singleton _
  | push _ _ _ hij ih => exact .cons_cons hij ih

/-- An instance that is met again is on a cycle of different instances. -/
theorem Trail.exists_cycle (h : lib.Trail r stack i) (hs : i ∈ stack) :
    ∃ is, cycle stack i = i :: is ++ [i] ∧ (i :: is).Nodup ∧
      (i :: is ++ [i]).IsChain lib.Needs := by
  obtain ⟨above, below, rfl, hnew⟩ := List.eq_append_cons_of_mem hs
  refine ⟨above.reverse, cycle_append hnew below, ?_, ?_⟩
  · have hstack : (above ++ i :: below).Nodup := .of_map (·.name) h.names_nodup
    exact List.nodup_cons.mpr
      ⟨fun hi => hnew (List.mem_reverse.mp hi), List.nodup_reverse.mpr hstack.of_append_left⟩
  · have hchain : ((i :: above ++ [i]) ++ below).IsChain fun a b => lib.Needs b a := by
      simpa using h.isChain
    have hreverse : i :: above.reverse ++ [i] = (i :: above ++ [i]).reverse := by simp
    rw [hreverse, List.isChain_reverse]
    exact hchain.left_of_append

theorem hasFault_of_lookup (hi : i ∈ requests) (h : lib.lookup i = .error e) :
    lib.HasFault requests e e.message := by
  rcases lookup_eq_error h with ⟨hnone, rfl⟩ | ⟨s, hs, hbinding, rfl⟩
  · exact .unknownRequest hi hnone
  · cases hb : s.bound with
    | false =>
      rw [hb, Bool.ne_false_iff] at hbinding
      exact .superfluous hi hs hb hbinding
    | true =>
      rw [hb, ne_eq, Bool.not_eq_true, Option.isSome_eq_false_iff, Option.isNone_iff_eq_none]
        at hbinding
      exact .missing hi hs hb hbinding

theorem hasFault_of_dependency {s : Subroutine} {name : String} (hi : lib.Reaches requests i)
    (hl : lib.lookup i = .ok s) (hname : name ∈ s.deps) (h : lib.dependency i name = .error e) :
    lib.HasFault requests e e.message := by
  obtain ⟨hs, hbinding⟩ := lookup_eq_ok_iff.mp hl
  rcases dependency_eq_error h with ⟨hnone, rfl⟩ | ⟨t, ht, hbound, hnone, rfl⟩
  · exact .unknownDependency hi hs hname hnone
  · rw [hnone] at hbinding
    exact .notInherited hi hs hbinding.symm hnone hname ht hbound

/-- An error of resolution reports, in its words, what is wrong. -/
theorem resolve_error_truthful (h : lib.resolve requests = .error e) :
    lib.HasFault requests e e.message := by
  have hleads := leads_resolve lib requests
  rw [h] at hleads
  obtain ⟨m, hm, hnext⟩ := hleads.exists_next?
  rcases hm.next?_cases hnext with ⟨_, -, heq⟩ | ⟨m', i, -, ⟨r, hr, htrail⟩, hi, heq⟩ |
    ⟨i, s, name, e', hi, hl, hname, hdep, heq⟩
  · cases heq
  · rcases enter_eq_error heq.symm with ⟨hs, rfl⟩ | hl
    · obtain ⟨is, hcycle, hnodup, hchain⟩ := htrail.exists_cycle hs
      rw [hcycle]
      exact .cycle ⟨r, hr, htrail.reaches⟩ hnodup hchain
    · rcases hi with hi | ⟨s, hs⟩
      · exact hasFault_of_lookup hi hl
      · rw [hs] at hl
        cases hl
  · obtain rfl := Except.error.inj heq
    exact hasFault_of_dependency hi hl hname hdep

/-- A bound subroutine that needs two others, of which each needs the other. -/
def looped : Library := .ofList [
  ("read", ⟨"read", true, ["frame", "texel"], ""⟩),
  ("texel", ⟨"texel", true, ["frame", "texture"], ""⟩),
  ("texture", ⟨"texture", true, ["texel"], ""⟩),
  ("frame", ⟨"frame", false, [], ""⟩)]

/-- The request that leads to a cycle is not on it. -/
theorem resolve_error_truthful_looped :
    looped.resolve [⟨"frame", none⟩, ⟨"read", some "x"⟩] =
        .error (.subroutineCycle
          [⟨"texel", some "x"⟩, ⟨"texture", some "x"⟩, ⟨"texel", some "x"⟩]) ∧
      looped.HasFault [⟨"frame", none⟩, ⟨"read", some "x"⟩]
        (.subroutineCycle [⟨"texel", some "x"⟩, ⟨"texture", some "x"⟩, ⟨"texel", some "x"⟩])
        "subroutine dependency cycle: texel<x> -> texture<x> -> texel<x>" := by
  have h : looped.resolve [⟨"frame", none⟩, ⟨"read", some "x"⟩] =
      .error (.subroutineCycle
        [⟨"texel", some "x"⟩, ⟨"texture", some "x"⟩, ⟨"texel", some "x"⟩]) := by decide
  have htext : Error.message (.subroutineCycle
      [⟨"texel", some "x"⟩, ⟨"texture", some "x"⟩, ⟨"texel", some "x"⟩]) =
      "subroutine dependency cycle: texel<x> -> texture<x> -> texel<x>" := by decide
  exact ⟨h, htext ▸ resolve_error_truthful h⟩

end TensorShader.Library
