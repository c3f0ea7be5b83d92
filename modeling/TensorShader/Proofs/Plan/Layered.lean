import TensorShader.Proofs.Plan.Resolve

/-! Libraries in layers: a dependency stands in a lower layer than the subroutine that declares it,
and it is bound only if that subroutine is. All requests that fit such a library have a plan. -/

namespace TensorShader.Library

open Subroutine (Instance)
open Relation (ReflTransGen TransGen)

variable {lib : Library} {requests : List Instance} {i j : Instance}

def Layered (lib : Library) (layer : String → Nat) : Prop :=
  ∀ name s, lib.find? name = some s → ∀ dep ∈ s.deps, layer dep < layer name ∧
    ∃ t, lib.find? dep = some t ∧ (t.bound = true → s.bound = true)

theorem Sound.exists_plan (h : lib.Sound requests) : ∃ p, lib.resolve requests = .ok p := by
  cases hresolve : lib.resolve requests with
  | ok p => exact ⟨p, rfl⟩
  | error e =>
    obtain ⟨r, hr, hraises⟩ := resolve_raises hresolve
    exact absurd hraises (h.not_raises hr .start)

namespace Layered

variable {layer : String → Nat}

theorem lower_of_transGen (h : lib.Layered layer) (hij : TransGen lib.Needs i j) :
    layer j.name < layer i.name := by
  have hstep : ∀ {i j : Instance}, lib.Needs i j → layer j.name < layer i.name := by
    rintro i j ⟨s, t, hs, hname, -, -⟩
    exact (h i.name s hs j.name hname).1
  induction hij with
  | single hij => exact hstep hij
  | tail _ hlast ih =>
    have hlower := hstep hlast
    omega

theorem fits_of_needs (h : lib.Layered layer) (hi : lib.Fits i) (hij : lib.Needs i j) :
    lib.Fits j := by
  obtain ⟨s, t, hs, hname, ht, hbinding⟩ := hij
  obtain ⟨s', hs', hbound⟩ := hi
  obtain rfl : s = s' := Option.some.inj (hs.symm.trans hs')
  obtain ⟨-, t', ht', himp⟩ := h i.name s hs j.name hname
  obtain rfl : t = t' := Option.some.inj (ht.symm.trans ht')
  refine ⟨t, ht, ?_⟩
  rw [hbinding]
  cases hb : t.bound with
  | false => rfl
  | true => exact hbound.trans (himp hb)

theorem fits_of_reaches (h : lib.Layered layer) (hfits : ∀ r ∈ requests, lib.Fits r)
    (hi : lib.Reaches requests i) : lib.Fits i := by
  obtain ⟨r, hr, hreach⟩ := hi
  induction hreach with
  | refl => exact hfits r hr
  | tail _ hstep ih => exact h.fits_of_needs ih hstep

theorem sound (h : lib.Layered layer) (hfits : ∀ r ∈ requests, lib.Fits r) :
    lib.Sound requests := by
  refine ⟨hfits, fun i hi s hs dep hdep => ?_, fun i _ hcycle => ?_⟩
  · obtain ⟨s', hs', hbound⟩ := h.fits_of_reaches hfits hi
    obtain rfl : s = s' := Option.some.inj (hs.symm.trans hs')
    obtain ⟨-, t, ht, himp⟩ := h i.name s hs dep hdep
    exact ⟨t, ht, fun hb => hbound.trans (himp hb)⟩
  · have hlower := h.lower_of_transGen hcycle
    omega

end Layered

end TensorShader.Library
