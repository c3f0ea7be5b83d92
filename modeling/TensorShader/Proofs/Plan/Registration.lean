import TensorShader.Proofs.Plan.Extension
import TensorShader.Proofs.Plan.Failure
import TensorShader.Proofs.Plan.Resolve

/-! Registration is conservative. Whatever is registered with a library, and whether or not that
succeeds, requests keep the result that they had, and a plan keeps its fragments for all layouts.
Only a subroutine that was unknown may be found. -/

namespace TensorShader.Library

open Subroutine (Instance)

variable {base lib : Library}

/-- The library after registrations one after the other, which go on when one fails. -/
def registerEach (lib : Library) : List Subroutine → Library
  | [] => lib
  | s :: ss => (lib.register s).2.registerEach ss

theorem Extended.registerEach (h : base.Extended lib) (ss : List Subroutine) :
    base.Extended (lib.registerEach ss) := by
  induction ss generalizing lib with
  | nil => exact h
  | cons s ss ih => exact ih (h.register s)

/-- A plan has the same fragments, or the same error, when the library has grown: all its instances
can be looked up already. -/
theorem Extended.render_eq {requests : List Instance} {p : Plan} (h : base.Extended lib)
    (hp : base.resolve requests = .ok p) (t : LayoutTable) : lib.render p t = base.render p t := by
  refine mapM_congr fun i hi => ?_
  obtain ⟨s, hs⟩ := exists_lookup_of_mem hp hi
  exact h.fragment hs t

/-- After any registrations, requests have the plan or the error that they had, unless the error is
that a subroutine is unknown which is now registered; and a plan that they had is rendered as
before, for all layouts. -/
theorem registration_conservative (base : Library) (ss : List Subroutine)
    (requests : List Instance) :
    ((∀ name, base.resolve requests = .error (.unknownSubroutine name) →
        (base.registerEach ss).find? name = none) →
      (base.registerEach ss).resolve requests = base.resolve requests) ∧
    ∀ p, base.resolve requests = .ok p → ∀ t,
      (base.registerEach ss).render p t = base.render p t := by
  have hext : base.Extended (base.registerEach ss) := Extended.refl.registerEach ss
  refine ⟨fun hkept => hext.resolve_eq fun e he => ?_, fun p hp t => hext.render_eq hp t⟩
  rintro ⟨name, rfl, hfound⟩
  exact hfound (hkept name he)

/-- A texture that needs nothing, under a name that is taken, and a subroutine that is new. -/
def further : List Subroutine := [⟨"texture", true, [], ""⟩, ⟨"noise", false, [], ""⟩]

/-- A cycle stays, although a registration tries to break it. A request that failed because a
subroutine was unknown has a plan once that is registered. -/
theorem registration_conservative_looped :
    (looped.registerEach further).size = 5 ∧
      (looped.registerEach further).resolve [⟨"read", some "x"⟩] =
        .error (.subroutineCycle
          [⟨"texel", some "x"⟩, ⟨"texture", some "x"⟩, ⟨"texel", some "x"⟩]) ∧
      looped.resolve [⟨"noise", none⟩] = .error (.unknownSubroutine "noise") ∧
      (looped.registerEach further).resolve [⟨"noise", none⟩] = .ok ⟨[⟨"noise", none⟩]⟩ := by
  have hcycle : looped.resolve [⟨"read", some "x"⟩] = .error (.subroutineCycle
      [⟨"texel", some "x"⟩, ⟨"texture", some "x"⟩, ⟨"texel", some "x"⟩]) := by decide
  have hkept := (registration_conservative looped further [⟨"read", some "x"⟩]).1 fun name h => by
    rw [hcycle] at h
    cases h
  exact ⟨by decide, hkept.trans hcycle, by decide, by decide⟩

end TensorShader.Library
