import TensorShader.Proofs.Plan.Order

/-! The depth-first walk over dependencies: what one visit does, what it adds when it succeeds, on
which stacks it happens, and what a failure says. The names on a stack are different names of the
library, so `room` never runs out. -/

namespace TensorShader.Library

open Subroutine (Instance)
open Relation (ReflTransGen TransGen)

variable {lib : Library} {room : Nat} {stack planned q : List Instance} {r i j : Instance}
  {e : Error}

/-- The walk over the dependencies of `i` with the given names, with `i` on the stack. -/
def visitDeps (lib : Library) (room : Nat) (stack : List Instance) (i : Instance)
    (planned : List Instance) (names : List String) : Except Error (List Instance) :=
  names.foldlM (fun planned name => do
    lib.visit room (i :: stack) planned (← lib.dependency i name)) planned

theorem visit_planned (h : i ∈ planned) : lib.visit room stack planned i = .ok planned := by
  unfold visit
  rw [if_pos h]

theorem visit_stacked (hp : i ∉ planned) (hs : i ∈ stack) :
    lib.visit room stack planned i = .error (.subroutineCycle (cycle stack i)) := by
  unfold visit
  rw [if_neg hp, if_pos hs]

theorem visit_lookup_error (hp : i ∉ planned) (hs : i ∉ stack) (hl : lib.lookup i = .error e) :
    lib.visit room stack planned i = .error e := by
  unfold visit
  rw [if_neg hp, if_neg hs, hl]

theorem visit_zero {s : Subroutine} (hp : i ∉ planned) (hs : i ∉ stack)
    (hl : lib.lookup i = .ok s) :
    lib.visit 0 stack planned i = .error (.subroutineCycle (cycle stack i)) := by
  unfold visit
  rw [if_neg hp, if_neg hs, hl]

theorem visit_succ {s : Subroutine} (hp : i ∉ planned) (hs : i ∉ stack)
    (hl : lib.lookup i = .ok s) :
    lib.visit (room + 1) stack planned i =
      (· ++ [i]) <$> lib.visitDeps room stack i planned s.deps := by
  rw [visit, if_neg hp, if_neg hs, hl]
  rfl

/-- A visit that succeeds found its instance planned, or added it after its dependencies. -/
theorem visit_eq_ok (h : lib.visit room stack planned i = .ok q) :
    (i ∈ planned ∧ q = planned) ∨
      (i ∉ planned ∧ i ∉ stack ∧ ∃ room' js q', room = room' + 1 ∧ lib.Expands i js ∧
        js.foldlM (lib.visit room' (i :: stack)) planned = .ok q' ∧ q = q' ++ [i]) := by
  by_cases hp : i ∈ planned
  · rw [visit_planned hp] at h
    exact .inl ⟨hp, (Except.ok.inj h).symm⟩
  by_cases hs : i ∈ stack
  · rw [visit_stacked hp hs] at h
    cases h
  cases hl : lib.lookup i with
  | error e =>
    rw [visit_lookup_error hp hs hl] at h
    cases h
  | ok s =>
    cases room with
    | zero =>
      rw [visit_zero hp hs hl] at h
      cases h
    | succ room =>
      rw [visit_succ hp hs hl] at h
      obtain ⟨q', hq', rfl⟩ := map_eq_ok_iff.mp h
      obtain ⟨js, hjs, hfold⟩ := foldlM_bind_eq_ok_iff.mp hq'
      exact .inr ⟨hp, hs, room, js, q', rfl, ⟨s, hl, hjs⟩, hfold, rfl⟩

/-- A visit that fails found its instance on the stack, or failed to look it up, or had no room, or
failed in the walk over its dependencies. -/
theorem visit_eq_error (h : lib.visit room stack planned i = .error e) :
    (i ∈ stack ∧ e = .subroutineCycle (cycle stack i)) ∨
      (i ∉ stack ∧ (lib.lookup i = .error e ∨ ∃ s, lib.lookup i = .ok s ∧ (room = 0 ∨
        ∃ room', room = room' + 1 ∧ lib.visitDeps room' stack i planned s.deps = .error e))) := by
  by_cases hp : i ∈ planned
  · rw [visit_planned hp] at h
    cases h
  by_cases hs : i ∈ stack
  · rw [visit_stacked hp hs] at h
    exact .inl ⟨hs, (Except.error.inj h).symm⟩
  cases hl : lib.lookup i with
  | error e' =>
    rw [visit_lookup_error hp hs hl] at h
    exact .inr ⟨hs, .inl (congrArg _ (Except.error.inj h))⟩
  | ok s =>
    cases room with
    | zero => exact .inr ⟨hs, .inr ⟨s, rfl, .inl rfl⟩⟩
    | succ room =>
      rw [visit_succ hp hs hl] at h
      exact .inr ⟨hs, .inr ⟨s, rfl, .inr ⟨room, rfl, map_eq_error_iff.mp h⟩⟩⟩

/-- Visits of several instances one after the other add what each of them adds. -/
theorem foldlM_visit_grown {js : List Instance}
    (hvisit : ∀ j ∈ js, ∀ m q, lib.InOrder m → lib.visit room stack m j = .ok q →
      lib.Grown stack [j] m q)
    (hp : lib.InOrder planned) (h : js.foldlM (lib.visit room stack) planned = .ok q) :
    lib.Grown stack js planned q := by
  induction js generalizing planned with
  | nil =>
    cases h
    exact .refl hp
  | cons j js ih =>
    obtain ⟨m, hm, hrest⟩ := foldlM_cons_eq_ok_iff.mp h
    have hj := hvisit j List.mem_cons_self planned m hp hm
    exact hj.cons (ih (fun k hk => hvisit k (List.mem_cons_of_mem j hk)) hj.inOrder hrest)

/-- A visit that succeeds adds its instance and what that needs, in order. -/
theorem visit_grown (hp : lib.InOrder planned) (h : lib.visit room stack planned i = .ok q) :
    lib.Grown stack [i] planned q := by
  induction room generalizing stack planned i q with
  | zero =>
    rcases visit_eq_ok h with ⟨hi, rfl⟩ | ⟨-, -, room', -, -, hroom, -⟩
    · exact .already hp hi
    · omega
  | succ room ih =>
    rcases visit_eq_ok h with ⟨hi, rfl⟩ | ⟨hi, hs, room', js, q', hroom, hjs, hfold, rfl⟩
    · exact .already hp hi
    · obtain rfl : room = room' := Nat.succ.inj hroom
      exact (foldlM_visit_grown (fun _ _ _ _ hm hj => ih hm hj) hp hfold).push hjs hi hs

/-- `lib.Trail r stack i`: a walk from `r` can come to visit `i` with `stack` below it. Each
instance on the stack fits its subroutine, occurs once, and needs the instance above it. -/
inductive Trail (lib : Library) (r : Instance) : List Instance → Instance → Prop
  | start : Trail lib r [] r
  | push {stack : List Instance} {i j : Instance} : Trail lib r stack i → i ∉ stack →
      lib.Fits i → lib.Needs i j → Trail lib r (i :: stack) j

namespace Trail

/-- What is visited can be reached from where the walk started. -/
theorem reaches (h : lib.Trail r stack i) : ReflTransGen lib.Needs r i := by
  induction h with
  | start => exact .refl
  | push _ _ _ hij ih => exact ih.tail hij

/-- What is visited can be reached from every instance on the stack. -/
theorem transGen (h : lib.Trail r stack i) (hj : j ∈ stack) : TransGen lib.Needs j i := by
  induction h with
  | start => cases hj
  | push _ _ _ hik ih =>
    rcases List.mem_cons.mp hj with rfl | hj
    · exact .single hik
    · exact (ih hj).tail hik

theorem fits (h : lib.Trail r stack i) (hj : j ∈ stack) : lib.Fits j := by
  induction h with
  | start => cases hj
  | push _ _ hfits _ ih =>
    rcases List.mem_cons.mp hj with rfl | hj
    · exact hfits
    · exact ih hj

theorem name_notMem (h : lib.Trail r stack i) (hs : i ∉ stack) (hi : lib.Fits i) :
    i.name ∉ stack.map (·.name) := by
  intro hmem
  obtain ⟨a, ha, hname⟩ := List.mem_map.mp hmem
  exact hs (eq_of_reaches (h.transGen ha).to_reflTransGen (h.fits ha) hi hname ▸ ha)

theorem names_nodup (h : lib.Trail r stack i) : (stack.map (·.name)).Nodup := by
  induction h with
  | start => exact .nil
  | push htrail hs hfits _ ih => exact List.nodup_cons.mpr ⟨htrail.name_notMem hs hfits, ih⟩

/-- While there is something to visit, not all names of the library are on the stack. -/
theorem length_lt_size (h : lib.Trail r stack i) (hs : i ∉ stack) (hi : lib.Fits i) :
    stack.length < lib.size := by
  have hnodup : (i.name :: stack.map (·.name)).Nodup :=
    List.nodup_cons.mpr ⟨h.name_notMem hs hi, h.names_nodup⟩
  have hsub : i.name :: stack.map (·.name) ⊆ lib.entries.map Prod.fst := by
    intro name hname
    rcases List.mem_cons.mp hname with rfl | hname
    · exact hi.name_mem
    · obtain ⟨a, ha, rfl⟩ := List.mem_map.mp hname
      exact (h.fits ha).name_mem
  have hle := List.Nodup.length_le_of_subset hnodup hsub
  rw [List.length_cons, List.length_map, List.length_map] at hle
  exact hle

end Trail

/-- `lib.Raises stack i e`: a visit of `i` above `stack` can fail with `e`. -/
inductive Raises (lib : Library) : List Instance → Instance → Error → Prop
  /-- The instance is on the stack. -/
  | cycle {stack : List Instance} {i : Instance} : i ∈ stack →
      Raises lib stack i (.subroutineCycle (cycle stack i))
  /-- There is no such instance. -/
  | lookup {stack : List Instance} {i : Instance} {e : Error} : i ∉ stack →
      lib.lookup i = .error e → Raises lib stack i e
  /-- A dependency stands for no instance. -/
  | dependency {stack : List Instance} {i : Instance} {s : Subroutine} {name : String} {e : Error} :
      i ∉ stack → lib.lookup i = .ok s → name ∈ s.deps → lib.dependency i name = .error e →
      Raises lib stack i e
  /-- The visit of a dependency fails. -/
  | inner {stack : List Instance} {i j : Instance} {e : Error} : i ∉ stack → lib.Fits i →
      lib.Needs i j → Raises lib (i :: stack) j e → Raises lib stack i e

/-- A walk over dependencies that fails does so at one of them. -/
theorem visitDeps_eq_error {names : List String}
    (h : lib.visitDeps room stack i planned names = .error e) :
    ∃ name ∈ names, lib.dependency i name = .error e ∨
      ∃ j, lib.dependency i name = .ok j ∧ ∃ m, lib.visit room (i :: stack) m j = .error e := by
  obtain ⟨name, hname, m, hm⟩ := foldlM_eq_error h
  rcases bind_eq_error_iff.mp hm with hm | ⟨j, hj, hm⟩
  · exact ⟨name, hname, .inl hm⟩
  · exact ⟨name, hname, .inr ⟨j, hj, m, hm⟩⟩

/-- A visit that fails does so for one of the reasons in `Raises`: the room suffices. -/
theorem visit_raises (htrail : lib.Trail r stack i) (hroom : lib.size ≤ room + stack.length)
    (h : lib.visit room stack planned i = .error e) : lib.Raises stack i e := by
  induction room generalizing stack planned i with
  | zero =>
    rcases visit_eq_error h with ⟨hs, rfl⟩ | ⟨hs, hl | ⟨s, hl, -⟩⟩
    · exact .cycle hs
    · exact .lookup hs hl
    · have hlt := htrail.length_lt_size hs (fits_iff.mpr ⟨s, hl⟩)
      omega
  | succ room ih =>
    rcases visit_eq_error h with ⟨hs, rfl⟩ | ⟨hs, hl | ⟨s, hl, hzero | ⟨room', hsucc, hdeps⟩⟩⟩
    · exact .cycle hs
    · exact .lookup hs hl
    · omega
    · obtain rfl : room = room' := Nat.succ.inj hsucc
      obtain ⟨name, hname, hdep | ⟨j, hdep, m, hm⟩⟩ := visitDeps_eq_error hdeps
      · exact .dependency hs hl hname hdep
      · have hfits : lib.Fits i := fits_iff.mpr ⟨s, hl⟩
        have hneeds := needs_of_dependency (lookup_eq_ok_iff.mp hl).1 hname hdep
        refine .inner hs hfits hneeds (ih (.push htrail hs hfits hneeds) ?_ hm)
        rw [List.length_cons]
        omega

end TensorShader.Library
