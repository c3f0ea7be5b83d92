import TensorShader.Proofs.Plan.Resolve

/-! Requests after other requests. A walk that starts with the instances of a plan differs from one
that starts with none only in that it leaves those instances out, so a plan is extended by what
further requests need besides it, and a failure is the same in both walks. -/

namespace TensorShader

open Subroutine (Instance)

def Plan.merge (known more : List Instance) : List Instance := known ++ more.filter (· ∉ known)

/-- A plan, and after it the instances of another that it does not hold. -/
def Plan.extend (p q : Plan) : Plan := ⟨merge p.instances q.instances⟩

namespace Library

open Plan (merge)

variable {lib : Library} {room : Nat} {stack known planned q a b : List Instance} {r i : Instance}
  {e : Error}

theorem mem_merge : i ∈ merge known planned ↔ i ∈ known ∨ i ∈ planned := by
  rw [merge, List.mem_append, List.mem_filter, decide_eq_true_iff]
  by_cases hi : i ∈ known <;> simp [hi]

theorem merge_concat (hi : i ∉ known) :
    merge known (planned ++ [i]) = merge known planned ++ [i] := by
  simp [merge, hi]

/-- What is known already makes no difference. -/
theorem merge_of_grown (hq : q.Nodup) (hstarts : planned <+: q)
    (hfresh : ∀ x ∈ q, x ∈ planned ∨ x ∈ known) : merge known q = merge known planned := by
  obtain ⟨new, rfl⟩ := hstarts
  have hnew : ∀ x ∈ new, x ∈ known := fun x hx =>
    (hfresh x (List.mem_append_right planned hx)).resolve_left fun hplanned =>
      (List.nodup_append.mp hq).2.2 x hplanned x hx rfl
  have hnone : new.filter (· ∉ known) = [] := List.filter_eq_nil_iff.mpr fun x hx => by
    simpa using hnew x hx
  rw [merge, List.filter_append, hnone, List.append_nil, merge]

/-- A visit of an instance of a plan does not fail, wherever it happens: what the instance needs is
in the plan, so nothing of it is on the stack. -/
theorem InOrder.not_raises (h : lib.InOrder known) (hi : i ∈ known) (htrail : lib.Trail r stack i) :
    ¬lib.Raises stack i e := by
  intro hraises
  induction hraises with
  | cycle hs => exact h.acyclic hi (htrail.transGen hs)
  | lookup _ hl =>
    obtain ⟨js, s, hok, -⟩ := h.expands hi
    rw [hok] at hl
    cases hl
  | dependency _ hl hname hdep =>
    obtain ⟨js, s, hok, hdeps⟩ := h.expands hi
    rw [hok] at hl
    cases hl
    have hmem := hdeps ▸ List.mem_map_of_mem (f := lib.dependency _) hname
    rw [hdep] at hmem
    simp at hmem
  | inner hs hfits hneeds _ ih =>
    exact ih (h.mem_of_reflTransGen hi (.single hneeds)) (.push htrail hs hfits hneeds)

/-- A visit of an instance of a plan adds instances of the plan only. -/
theorem visit_known (hknown : lib.InOrder known) (hi : i ∈ known) (hplanned : lib.InOrder planned)
    (htrail : lib.Trail r stack i) (hroom : lib.size ≤ room + stack.length) :
    ∃ q, lib.visit room stack planned i = .ok q ∧ merge known q = merge known planned := by
  cases h : lib.visit room stack planned i with
  | error e => exact absurd (visit_raises htrail hroom h) (hknown.not_raises hi htrail)
  | ok q =>
    have hgrown := visit_grown hplanned h
    refine ⟨q, rfl, merge_of_grown hgrown.inOrder.nodup hgrown.starts fun x hx => ?_⟩
    refine (hgrown.fresh x hx).imp_right fun ⟨_, j, hj, hreach⟩ => ?_
    obtain rfl := List.mem_singleton.mp hj
    exact hknown.mem_of_reflTransGen hi hreach

/-- Of a visit after a plan, only the walk over the dependencies of a new instance is open. -/
theorem visit_merge_of_new (hknown : lib.InOrder known) (hplanned : lib.InOrder planned)
    (htrail : lib.Trail r stack i) (hroom : lib.size ≤ room + stack.length)
    (hnew : ∀ s, i ∉ known → i ∉ planned → i ∉ stack → lib.lookup i = .ok s →
      lib.visit room stack (merge known planned) i =
        merge known <$> lib.visit room stack planned i) :
    lib.visit room stack (merge known planned) i =
      merge known <$> lib.visit room stack planned i := by
  by_cases hi : i ∈ known
  · obtain ⟨q, hq, hmerge⟩ := visit_known hknown hi hplanned htrail hroom
    rw [visit_planned (mem_merge.mpr (.inl hi)), hq, ← hmerge]
    rfl
  by_cases hp : i ∈ planned
  · rw [visit_planned (mem_merge.mpr (.inr hp)), visit_planned hp]
    rfl
  have hmerge : i ∉ merge known planned := fun h => (mem_merge.mp h).elim hi hp
  by_cases hs : i ∈ stack
  · rw [visit_stacked hmerge hs, visit_stacked hp hs]
    rfl
  cases hl : lib.lookup i with
  | error e =>
    rw [visit_lookup_error hmerge hs hl, visit_lookup_error hp hs hl]
    rfl
  | ok s => exact hnew s hi hp hs hl

/-- A visit after a plan does to what has been added to the plan what it does without the plan. -/
theorem visit_merge (hknown : lib.InOrder known) (hplanned : lib.InOrder planned)
    (htrail : lib.Trail r stack i) (hroom : lib.size ≤ room + stack.length) :
    lib.visit room stack (merge known planned) i =
      merge known <$> lib.visit room stack planned i := by
  -- both walks have the same room, which the stack leaves for as long as something new is visited
  induction room generalizing stack planned i with
  | zero =>
    refine visit_merge_of_new hknown hplanned htrail hroom fun s _ _ hs hl => ?_
    have hlt := htrail.length_lt_size hs (fits_iff.mpr ⟨s, hl⟩)
    omega
  | succ room ih =>
    refine visit_merge_of_new hknown hplanned htrail hroom fun s hi hp hs hl => ?_
    have hfits : lib.Fits i := fits_iff.mpr ⟨s, hl⟩
    have hdeps : lib.visitDeps room stack i (merge known planned) s.deps =
        merge known <$> lib.visitDeps room stack i planned s.deps := by
      refine foldlM_map_of_step (P := lib.InOrder) (fun name hname m hm => ?_)
        (fun name _ m m' hm hstep => ?_) hplanned
      · cases hdep : lib.dependency i name with
        | error e => rfl
        | ok j =>
          have hneeds := needs_of_dependency (lookup_eq_ok_iff.mp hl).1 hname hdep
          exact ih hm (.push htrail hs hfits hneeds) (by rw [List.length_cons]; omega)
      · obtain ⟨j, -, hvisit⟩ := bind_eq_ok_iff.mp hstep
        exact (visit_grown hm hvisit).inOrder
    have hmerge : i ∉ merge known planned := fun h => (mem_merge.mp h).elim hi hp
    rw [visit_succ hmerge hs hl, visit_succ hp hs hl, hdeps]
    cases lib.visitDeps room stack i planned s.deps with
    | error e => rfl
    | ok q => exact congrArg Except.ok (merge_concat hi).symm

theorem foldlM_visit_merge (hknown : lib.InOrder known) (requests : List Instance) :
    requests.foldlM (lib.visit lib.size []) known =
      merge known <$> requests.foldlM (lib.visit lib.size []) [] := by
  have hstart : merge known [] = known := List.append_nil known
  have h : requests.foldlM (lib.visit lib.size []) (merge known []) =
      merge known <$> requests.foldlM (lib.visit lib.size []) [] :=
    foldlM_map_of_step (P := lib.InOrder) (fun i _ m hm => visit_merge hknown hm .start (by simp))
      (fun i _ m m' hm hstep => (visit_grown hm hstep).inOrder) .empty
  rwa [hstart] at h

theorem foldlM_visit_planned (h : a ⊆ planned) :
    a.foldlM (lib.visit room stack) planned = .ok planned := by
  induction a with
  | nil => rfl
  | cons i a ih =>
    obtain ⟨hi, ha⟩ := List.cons_subset.mp h
    rw [List.foldlM_cons, visit_planned hi]
    exact ih ha

theorem resolve_append_of_error (h : lib.resolve a = .error e) (b : List Instance) :
    lib.resolve (a ++ b) = .error e := by
  rw [resolve, List.foldlM_append, map_eq_error_iff.mp h]
  rfl

theorem resolve_append_of_ok {p : Plan} (h : lib.resolve a = .ok p) (b : List Instance) :
    lib.resolve (a ++ b) = p.extend <$> lib.resolve b := by
  have hknown := (resolve_grown h).inOrder
  obtain ⟨known, hwalk, rfl⟩ := map_eq_ok_iff.mp h
  rw [resolve, List.foldlM_append, hwalk]
  show Plan.mk <$> b.foldlM (lib.visit lib.size []) known = _
  rw [foldlM_visit_merge hknown, resolve]
  cases b.foldlM (lib.visit lib.size []) [] <;> rfl

theorem resolve_append_of_subset (h : b ⊆ a) : lib.resolve (a ++ b) = lib.resolve a := by
  cases ha : lib.resolve a with
  | error e => exact resolve_append_of_error ha b
  | ok p =>
    have hholds := (resolve_grown ha).holds
    obtain ⟨known, hwalk, rfl⟩ := map_eq_ok_iff.mp ha
    rw [resolve, List.foldlM_append, hwalk]
    show Plan.mk <$> b.foldlM (lib.visit lib.size []) known = _
    rw [foldlM_visit_planned fun i hi => hholds (h hi)]
    rfl

/-- The plan for requests after others is the plan for those others, and after it what the further
requests need besides. If either fails, so do both together, with the error of the first that does.
So what was planned before stays where it is, and to repeat requests adds nothing. -/
theorem resolve_append (lib : Library) (a b : List Instance) :
    (lib.resolve (a ++ b) = do
      let p ← lib.resolve a
      let q ← lib.resolve b
      return p.extend q) ∧
    (∀ p q, lib.resolve a = .ok p → lib.resolve (a ++ b) = .ok q → p.instances <+: q.instances) ∧
    (b ⊆ a → lib.resolve (a ++ b) = lib.resolve a) := by
  refine ⟨?_, fun p q hp hq => ?_, resolve_append_of_subset⟩
  · cases ha : lib.resolve a with
    | error e => exact resolve_append_of_error ha b
    | ok p =>
      rw [resolve_append_of_ok ha]
      cases lib.resolve b <;> rfl
  · rw [resolve_append_of_ok hp] at hq
    obtain ⟨more, -, rfl⟩ := map_eq_ok_iff.mp hq
    exact List.prefix_append p.instances _

end Library

end TensorShader
