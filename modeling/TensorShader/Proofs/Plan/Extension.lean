import TensorShader.Proofs.Plan.Moment
import TensorShader.Subroutine.Fragment

/-! Libraries that grow. Registration replaces nothing, so a walk over dependencies takes the same
steps after further registrations, unless it comes to a name that was missing and no longer is. What
a library resolves it then resolves to the same plan, and the fragments of that plan are the same. -/

namespace TensorShader

namespace Library

open Subroutine (Instance)

/-- The library `base` after registrations of further subroutines, which succeeded or failed. -/
inductive Extended (base : Library) : Library → Prop
  | refl : Extended base base
  | register {lib : Library} (s : Subroutine) : Extended base lib →
      Extended base (lib.register s).2

variable {base lib : Library} {name : String} {s : Subroutine} {i j : Instance}

theorem Extended.find? (h : base.Extended lib) (hs : base.find? name = some s) :
    lib.find? name = some s := by
  induction h with
  | refl => exact hs
  | register _ _ ih => exact Registry.find?_register ih _ _ _

/-- The error that a subroutine is unknown is outdated in a library that has the subroutine. -/
def Outdated (lib : Library) (e : Error) : Prop :=
  ∃ name, e = .unknownSubroutine name ∧ lib.find? name ≠ none

theorem Extended.find?_eq (h : base.Extended lib)
    (hnone : base.find? name = none → ¬lib.Outdated (.unknownSubroutine name)) :
    lib.find? name = base.find? name := by
  cases hs : base.find? name with
  | some s => exact h.find? hs
  | none =>
    by_contra hfound
    exact hnone hs ⟨name, rfl, hfound⟩

theorem Extended.lookup (h : base.Extended lib) (ha : Avoids lib.Outdated (base.lookup i)) :
    lib.lookup i = base.lookup i := by
  have hfind : lib.find? i.name = base.find? i.name :=
    h.find?_eq fun hnone => ha _ (by rw [Library.lookup, hnone])
  rw [Library.lookup, Library.lookup, hfind]

theorem Extended.dependency (h : base.Extended lib)
    (ha : Avoids lib.Outdated (base.dependency i name)) :
    lib.dependency i name = base.dependency i name := by
  have hfind : lib.find? name = base.find? name :=
    h.find?_eq fun hnone => ha _ (by rw [Library.dependency, hnone])
  rw [Library.dependency, Library.dependency, hfind]

theorem Extended.enter {m : Moment} (h : base.Extended lib)
    (ha : Avoids lib.Outdated (base.enter m i)) : lib.enter m i = base.enter m i := by
  unfold Library.enter at *
  split
  · rfl
  split
  · rfl
  rw [if_neg ‹_›, if_neg ‹_›] at ha
  exact bind_eq_of_avoids h.lookup (fun _ _ => rfl) ha

/-- A step asks for names that both libraries have, or neither, unless it fails with an outdated
error. -/
theorem Extended.next? {m : Moment} {x : Except Error Moment} (h : base.Extended lib)
    (hx : base.next? m = some x) (ha : Avoids lib.Outdated x) : lib.next? m = some x := by
  match m with
  | ⟨[], _, []⟩ => cases hx
  | ⟨[], planned, j :: requests⟩ =>
    obtain rfl := Option.some.inj hx
    exact congrArg some (h.enter ha)
  | ⟨⟨j, []⟩ :: frames, planned, requests⟩ => exact hx
  | ⟨⟨j, name :: left⟩ :: frames, planned, requests⟩ =>
    obtain rfl := Option.some.inj hx
    exact congrArg some (bind_eq_of_avoids h.dependency (fun _ => h.enter) ha)

/-- So does a walk: an error can only be its end. -/
theorem Extended.leads {x y : Except Error Moment} (h : base.Extended lib)
    (hwalk : base.Leads x y) (ha : Avoids lib.Outdated y) : lib.Leads x y := by
  induction hwalk with
  | refl => exact .refl
  | tail _ hstep ih =>
    obtain ⟨m, rfl, hnext⟩ := hstep
    exact (ih (avoids_ok _ m)).tail ⟨m, rfl, h.next? hnext ha⟩

/-- What resolution results in stays when the library grows, unless it is an outdated error. -/
theorem Extended.resolve_eq {requests : List Instance} (h : base.Extended lib)
    (ha : Avoids lib.Outdated (base.resolve requests)) :
    lib.resolve requests = base.resolve requests := by
  have hwalk : lib.Leads (.ok (.start requests)) (Moment.final <$> base.resolve requests) :=
    h.leads (leads_resolve base requests) (ha.map _)
  have hfinal := hwalk.resolve.eq_of_final
  have hinj : ∀ p q, Moment.final p = Moment.final q → p = q := by
    rintro ⟨is⟩ ⟨js⟩ heq
    exact congrArg Plan.mk (Moment.mk.inj heq).2.1
  cases hp : base.resolve requests <;> cases hq : lib.resolve requests <;>
    rw [hp, hq] at hfinal
  · exact congrArg Except.error (Except.error.inj hfinal)
  · cases hfinal
  · cases hfinal
  · exact congrArg Except.ok (hinj _ _ (Except.ok.inj hfinal))

theorem Extended.resolve (h : base.Extended lib) {requests : List Instance} {p : Plan}
    (hp : base.resolve requests = .ok p) : lib.resolve requests = .ok p := by
  rw [← hp]
  exact h.resolve_eq (hp ▸ avoids_ok _ p)

theorem Extended.fragment (h : base.Extended lib) (hs : base.lookup i = .ok s)
    (t : LayoutTable) : lib.fragment t i = base.fragment t i := by
  rw [Library.fragment, Library.fragment, h.lookup (hs ▸ avoids_ok _ s)]

theorem Extended.render {t : LayoutTable} {p : Plan} {fs : List Fragment} (h : base.Extended lib)
    (hfs : base.render p t = .ok fs) : lib.render p t = .ok fs := by
  refine mapM_eq_ok_of_imp (fun i f hf => ?_) hfs
  obtain ⟨s, hs, -⟩ := bind_eq_ok_iff.1 hf
  rw [h.fragment hs t]
  exact hf

/-- Requests have a plan, and the given fragments for the layouts of a table. -/
def Provides (lib : Library) (t : LayoutTable) (requests : List Instance) (fs : List Fragment) :
    Prop :=
  ∃ p, lib.resolve requests = .ok p ∧ lib.render p t = .ok fs

theorem Extended.provides {t : LayoutTable} {requests : List Instance} {fs : List Fragment}
    (h : base.Extended lib) (hfs : base.Provides t requests fs) : lib.Provides t requests fs := by
  obtain ⟨p, hp, hrender⟩ := hfs
  exact ⟨p, h.resolve hp, h.render hrender⟩

end Library

end TensorShader
