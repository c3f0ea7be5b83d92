import TensorShader.Proofs.Plan.Walk

/-! The walk over dependencies one step at a time. A moment of it has a stack of its own: the
instances that are being visited, each with the names of the dependencies that are left. Nothing
bounds the stack, yet the steps lead from the requests to what resolution results in, and at every
moment the stack is a path of dependencies that starts at a request. -/

namespace TensorShader

open Subroutine (Instance)
open Relation (ReflTransGen)

/-- An instance that is being visited, and the names of its dependencies that are left. -/
structure Frame where
  inst : Instance
  left : List String

/-- What a walk has come to: the instances that are being visited, the latest first; what has been
planned; and the requests that are left. -/
structure Moment where
  frames : List Frame
  planned : List Instance
  requests : List Instance

namespace Moment

/-- The instances that are being visited, the latest first. -/
def stack (m : Moment) : List Instance := m.frames.map (·.inst)

def start (requests : List Instance) : Moment := ⟨[], [], requests⟩

/-- The moment at which nothing is left. -/
def final (p : Plan) : Moment := ⟨[], p.instances, []⟩

end Moment

namespace Library

/-- The beginning of a visit. An instance that is neither planned nor on the stack gets there, with
all its dependencies left. -/
def enter (lib : Library) (m : Moment) (i : Instance) : Except Error Moment :=
  if i ∈ m.planned then .ok m
  else if i ∈ m.stack then .error (.subroutineCycle (cycle m.stack i))
  else do
    let s ← lib.lookup i
    return { m with frames := ⟨i, s.deps⟩ :: m.frames }

/-- The next step of a walk, if something is left: the visit of the next dependency or request
begins, or an instance without dependencies that are left is planned. -/
def next? (lib : Library) : Moment → Option (Except Error Moment)
  | ⟨[], _, []⟩ => none
  | ⟨[], planned, i :: requests⟩ => some (lib.enter ⟨[], planned, requests⟩ i)
  | ⟨⟨i, []⟩ :: frames, planned, requests⟩ => some (.ok ⟨frames, planned ++ [i], requests⟩)
  | ⟨⟨i, name :: left⟩ :: frames, planned, requests⟩ =>
    some (do lib.enter ⟨⟨i, left⟩ :: frames, planned, requests⟩ (← lib.dependency i name))

/-- The walk comes from one moment to another, or to an error, in any number of steps. -/
def Leads (lib : Library) : Except Error Moment → Except Error Moment → Prop :=
  ReflTransGen fun x y => ∃ m, x = .ok m ∧ lib.next? m = some y

variable {lib : Library} {room : Nat} {frames : List Frame} {planned requests : List Instance}
  {m m' : Moment} {r i j : Instance} {s : Subroutine} {e : Error} {x y : Except Error Moment}

theorem enter_planned (h : i ∈ m.planned) : lib.enter m i = .ok m := by
  unfold enter
  rw [if_pos h]

theorem enter_stacked (hp : i ∉ m.planned) (hs : i ∈ m.stack) :
    lib.enter m i = .error (.subroutineCycle (cycle m.stack i)) := by
  unfold enter
  rw [if_neg hp, if_pos hs]

theorem enter_lookup_error (hp : i ∉ m.planned) (hs : i ∉ m.stack)
    (hl : lib.lookup i = .error e) : lib.enter m i = .error e := by
  unfold enter
  rw [if_neg hp, if_neg hs, hl]
  rfl

theorem enter_new (hp : i ∉ m.planned) (hs : i ∉ m.stack) (hl : lib.lookup i = .ok s) :
    lib.enter m i = .ok { m with frames := ⟨i, s.deps⟩ :: m.frames } := by
  unfold enter
  rw [if_neg hp, if_neg hs, hl]
  rfl

theorem enter_eq_ok (h : lib.enter m i = .ok m') :
    m' = m ∨ ∃ s, i ∉ m.stack ∧ lib.lookup i = .ok s ∧
      m' = { m with frames := ⟨i, s.deps⟩ :: m.frames } := by
  by_cases hp : i ∈ m.planned
  · rw [enter_planned hp] at h
    exact .inl (Except.ok.inj h).symm
  by_cases hs : i ∈ m.stack
  · rw [enter_stacked hp hs] at h
    cases h
  cases hl : lib.lookup i with
  | error e =>
    rw [enter_lookup_error hp hs hl] at h
    cases h
  | ok s =>
    rw [enter_new hp hs hl] at h
    exact .inr ⟨s, hs, rfl, (Except.ok.inj h).symm⟩

theorem enter_eq_error (h : lib.enter m i = .error e) :
    (i ∈ m.stack ∧ e = .subroutineCycle (cycle m.stack i)) ∨ lib.lookup i = .error e := by
  by_cases hp : i ∈ m.planned
  · rw [enter_planned hp] at h
    cases h
  by_cases hs : i ∈ m.stack
  · rw [enter_stacked hp hs] at h
    exact .inl ⟨hs, (Except.error.inj h).symm⟩
  cases hl : lib.lookup i with
  | error e' =>
    rw [enter_lookup_error hp hs hl] at h
    exact .inr (congrArg _ (Except.error.inj h))
  | ok s =>
    rw [enter_new hp hs hl] at h
    cases h

/-- Steps that lead to what one part of a computation results in lead to what all of it results in,
if the steps from there do. -/
theorem Leads.bind {α β : Type} {v : Except Error α} {rest : α → Except Error β} {f : α → Moment}
    {g : β → Moment} (h : lib.Leads x (f <$> v))
    (hrest : ∀ a, lib.Leads (.ok (f a)) (g <$> rest a)) : lib.Leads x (g <$> (v >>= rest)) := by
  cases v with
  | error e => exact h
  | ok a => exact h.trans (hrest a)

theorem Leads.of_next? (h : lib.next? m = some x) : lib.Leads (.ok m) x := .single ⟨m, rfl, h⟩

/-- From the dependencies of `i` that are left the steps lead to where the recursive walk over them
leads, and then `i` is planned, if the steps from the beginning of each visit lead to what the visit
results in. -/
theorem leads_visitDeps {stack : List Instance} {names : List String} (hl : lib.lookup i = .ok s)
    (hsub : names ⊆ s.deps)
    (hvisit : ∀ (left : List String) (planned : List Instance) (j : Instance), lib.Needs i j →
      lib.Leads (lib.enter ⟨⟨i, left⟩ :: frames, planned, requests⟩ j)
        ((⟨⟨i, left⟩ :: frames, ·, requests⟩) <$> lib.visit room (i :: stack) planned j)) :
    lib.Leads (.ok ⟨⟨i, names⟩ :: frames, planned, requests⟩)
      ((fun q => ⟨frames, q ++ [i], requests⟩) <$>
        lib.visitDeps room stack i planned names) := by
  induction names generalizing planned with
  | nil => exact .of_next? rfl
  | cons name names ih =>
    obtain ⟨hname, hsub⟩ := List.cons_subset.mp hsub
    have hstep : lib.Leads (.ok ⟨⟨i, name :: names⟩ :: frames, planned, requests⟩)
        (do lib.enter ⟨⟨i, names⟩ :: frames, planned, requests⟩ (← lib.dependency i name)) :=
      .of_next? rfl
    rw [visitDeps, List.foldlM_cons]
    cases hdep : lib.dependency i name with
    | error e =>
      rw [hdep] at hstep
      exact hstep
    | ok j =>
      rw [hdep] at hstep
      have hneeds := needs_of_dependency (lookup_eq_ok_iff.mp hl).1 hname hdep
      have hj : lib.Leads _ _ := hstep.trans (hvisit names planned j hneeds)
      exact hj.bind fun q => ih hsub

/-- Of a visit, only that of a new instance is open: the others are over when they begin. -/
theorem leads_visit_of_new
    (hnew : ∀ s, i ∉ planned → i ∉ frames.map (·.inst) → lib.lookup i = .ok s →
      lib.Leads (.ok ⟨⟨i, s.deps⟩ :: frames, planned, requests⟩)
        ((⟨frames, ·, requests⟩) <$> lib.visit room (frames.map (·.inst)) planned i)) :
    lib.Leads (lib.enter ⟨frames, planned, requests⟩ i)
      ((⟨frames, ·, requests⟩) <$> lib.visit room (frames.map (·.inst)) planned i) := by
  by_cases hp : i ∈ planned
  · rw [visit_planned hp, enter_planned (m := ⟨frames, planned, requests⟩) hp]
    exact .refl
  by_cases hs : i ∈ frames.map (·.inst)
  · rw [visit_stacked hp hs, enter_stacked (m := ⟨frames, planned, requests⟩) hp hs]
    exact .refl
  cases hl : lib.lookup i with
  | error e =>
    rw [visit_lookup_error hp hs hl,
      enter_lookup_error (m := ⟨frames, planned, requests⟩) hp hs hl]
    exact .refl
  | ok s =>
    rw [enter_new (m := ⟨frames, planned, requests⟩) hp hs hl]
    exact hnew s hp hs hl

/-- From the beginning of a visit the steps lead to what the visit results in. -/
theorem leads_visit (htrail : lib.Trail r (frames.map (·.inst)) i)
    (hroom : lib.size ≤ room + frames.length) :
    lib.Leads (lib.enter ⟨frames, planned, requests⟩ i)
      ((⟨frames, ·, requests⟩) <$> lib.visit room (frames.map (·.inst)) planned i) := by
  -- what is left of an instance further down plays no part while one above it is visited
  induction room generalizing frames planned i with
  | zero =>
    refine leads_visit_of_new fun s _ hs hl => ?_
    have hlt := htrail.length_lt_size hs (fits_iff.mpr ⟨s, hl⟩)
    rw [List.length_map] at hlt
    omega
  | succ room ih =>
    refine leads_visit_of_new fun s hp hs hl => ?_
    have hdeps : lib.Leads (.ok ⟨⟨i, s.deps⟩ :: frames, planned, requests⟩)
        ((fun q => ⟨frames, q ++ [i], requests⟩) <$>
          lib.visitDeps room (frames.map (·.inst)) i planned s.deps) := by
      refine leads_visitDeps hl (List.Subset.refl s.deps) fun left planned j hneeds => ?_
      have hj : lib.Trail r ((Frame.mk i left :: frames).map (·.inst)) j :=
        .push htrail hs (fits_iff.mpr ⟨s, hl⟩) hneeds
      exact ih hj (by rw [List.length_cons]; omega)
    rw [visit_succ hp hs hl, Functor.map_map]
    exact hdeps

theorem leads_requests :
    lib.Leads (.ok ⟨[], planned, requests⟩)
      ((⟨[], ·, []⟩) <$> requests.foldlM (lib.visit lib.size []) planned) := by
  induction requests generalizing planned with
  | nil => exact .refl
  | cons i requests ih =>
    have hstep : lib.Leads (.ok ⟨[], planned, i :: requests⟩)
        (lib.enter ⟨[], planned, requests⟩ i) := .of_next? rfl
    have htrail : lib.Trail i (([] : List Frame).map (·.inst)) i := .start
    have hi : lib.Leads (.ok ⟨[], planned, i :: requests⟩)
        ((⟨[], ·, requests⟩) <$> lib.visit lib.size [] planned i) :=
      hstep.trans (leads_visit htrail (Nat.le_refl lib.size))
    rw [List.foldlM_cons]
    exact hi.bind fun q => ih

/-- The steps from the requests lead to what resolution results in. -/
theorem leads_resolve (lib : Library) (requests : List Instance) :
    lib.Leads (.ok (.start requests)) (Moment.final <$> lib.resolve requests) := by
  rw [resolve, Functor.map_map]
  exact leads_requests

/-- A walk that has come to what a resolution results in comes to nothing else: nothing is left in a
final moment. -/
theorem Leads.eq_of_final {result : Except Error Plan}
    (h : lib.Leads (Moment.final <$> result) x) : x = Moment.final <$> result := by
  rcases h.cases_head with heq | ⟨y, ⟨m, hm, hnext⟩, -⟩
  · exact heq.symm
  · cases result with
    | error e => cases hm
    | ok p =>
      obtain rfl := Except.ok.inj hm
      cases hnext

/-- What a walk has come to leads on to what resolution results in: there is one next step at
most. -/
theorem Leads.resolve (h : lib.Leads (.ok (.start requests)) x) :
    lib.Leads x (Moment.final <$> lib.resolve requests) := by
  have hunique : Relator.RightUnique fun (x y : Except Error Moment) =>
      ∃ m, x = .ok m ∧ lib.next? m = some y := by
    rintro _ y z ⟨m, rfl, hy⟩ ⟨m', hm, hz⟩
    obtain rfl := Except.ok.inj hm
    exact Option.some.inj (hy.symm.trans hz)
  rcases ReflTransGen.total_of_right_unique hunique h (leads_resolve lib requests) with hx | hx
  · exact hx
  · rw [Leads.eq_of_final hx]
    exact .refl

/-- The stack of a walk for requests: each instance on it can be visited with the instances below it
on the stack, has been found, and has some of its own dependencies left. -/
inductive Stacked (lib : Library) (requests : List Instance) : List Frame → Prop
  | empty : Stacked lib requests []
  | push {frames : List Frame} {left : List String} {r i : Instance} {s : Subroutine} :
      Stacked lib requests frames → r ∈ requests → lib.Trail r (frames.map (·.inst)) i →
      i ∉ frames.map (·.inst) → lib.lookup i = .ok s → left ⊆ s.deps →
      Stacked lib requests (⟨i, left⟩ :: frames)

namespace Stacked

theorem fits (h : lib.Stacked requests frames) (hi : i ∈ frames.map (·.inst)) : lib.Fits i := by
  cases h with
  | empty => cases hi
  | push _ _ htrail _ hl _ =>
    rcases List.mem_cons.mp hi with rfl | hi
    · exact fits_iff.mpr ⟨_, hl⟩
    · exact htrail.fits hi

theorem names_nodup (h : lib.Stacked requests frames) :
    ((frames.map (·.inst)).map (·.name)).Nodup := by
  cases h with
  | empty => exact .nil
  | push _ _ htrail hs hl _ =>
    exact List.nodup_cons.mpr
      ⟨htrail.name_notMem hs (fits_iff.mpr ⟨_, hl⟩), htrail.names_nodup⟩

end Stacked

/-- What every moment of a walk for requests is like. -/
structure Invariant (lib : Library) (requests : List Instance) (m : Moment) : Prop where
  stacked : lib.Stacked requests m.frames
  left : m.requests ⊆ requests

namespace Invariant

theorem start (lib : Library) (requests : List Instance) :
    lib.Invariant requests (.start requests) :=
  ⟨.empty, List.Subset.refl requests⟩

/-- What a step of a walk is: an instance has been planned; or a visit begins, of a request or of
an instance that has been found; or a dependency stands for no instance. -/
theorem next?_cases (h : lib.Invariant requests m) (hnext : lib.next? m = some x) :
    (∃ m', lib.Invariant requests m' ∧ x = .ok m') ∨
    (∃ m' i, lib.Invariant requests m' ∧ (∃ r ∈ requests, lib.Trail r m'.stack i) ∧
      (i ∈ requests ∨ ∃ s, lib.lookup i = .ok s) ∧ x = lib.enter m' i) ∨
    ∃ i s name e, lib.Reaches requests i ∧ lib.lookup i = .ok s ∧ name ∈ s.deps ∧
      lib.dependency i name = .error e ∧ x = .error e := by
  obtain ⟨frames, planned, left⟩ := m
  obtain ⟨hstacked, hleft⟩ := h
  cases hstacked with
  | empty =>
    cases left with
    | nil => cases hnext
    | cons i left =>
      obtain rfl := Option.some.inj hnext
      obtain ⟨hi, hleft⟩ := List.cons_subset.mp hleft
      exact .inr (.inl ⟨_, i, ⟨.empty, hleft⟩, ⟨i, hi, .start⟩, .inl hi, rfl⟩)
  | @push frames names r i s hbelow hr htrail hs hl hsub =>
    cases names with
    | nil =>
      obtain rfl := Option.some.inj hnext
      exact .inl ⟨⟨frames, planned ++ [i], left⟩, ⟨hbelow, hleft⟩, rfl⟩
    | cons name names =>
      obtain rfl := Option.some.inj hnext
      obtain ⟨hname, hsub⟩ := List.cons_subset.mp hsub
      cases hdep : lib.dependency i name with
      | error e =>
        exact .inr (.inr ⟨i, s, name, e, ⟨r, hr, htrail.reaches⟩, hl, hname, hdep, rfl⟩)
      | ok j =>
        have hneeds := needs_of_dependency (lookup_eq_ok_iff.mp hl).1 hname hdep
        refine .inr (.inl ⟨⟨⟨i, names⟩ :: frames, planned, left⟩, j,
          ⟨.push hbelow hr htrail hs hl hsub, hleft⟩, ⟨r, hr, ?_⟩,
          .inr (exists_lookup_of_dependency hdep), rfl⟩)
        exact .push htrail hs (fits_iff.mpr ⟨s, hl⟩) hneeds

theorem enter (h : lib.Invariant requests m) (htrail : ∃ r ∈ requests, lib.Trail r m.stack i)
    (hm' : lib.enter m i = .ok m') : lib.Invariant requests m' := by
  obtain ⟨r, hr, htrail⟩ := htrail
  rcases enter_eq_ok hm' with rfl | ⟨s, hs, hl, rfl⟩
  · exact h
  · exact ⟨.push h.stacked hr htrail hs hl (List.Subset.refl s.deps), h.left⟩

/-- A step keeps the invariant. -/
theorem next? (h : lib.Invariant requests m) (hnext : lib.next? m = some (.ok m')) :
    lib.Invariant requests m' := by
  rcases h.next?_cases hnext with
    ⟨_, hm, heq⟩ | ⟨_, i, hm, htrail, -, heq⟩ | ⟨_, _, _, _, -, -, -, -, heq⟩
  · obtain rfl := Except.ok.inj heq
    exact hm
  · exact hm.enter htrail heq.symm
  · cases heq

/-- So does every walk from the requests. -/
theorem of_leads (h : lib.Leads (.ok (.start requests)) (.ok m)) : lib.Invariant requests m := by
  have hall : ∀ x, lib.Leads (.ok (.start requests)) x → ∀ m, x = .ok m →
      lib.Invariant requests m := by
    intro x hx
    induction hx with
    | refl =>
      rintro m heq
      obtain rfl := Except.ok.inj heq
      exact start lib requests
    | tail _ hstep ih =>
      rintro m rfl
      obtain ⟨m', rfl, hnext⟩ := hstep
      exact (ih m' rfl).next? hnext
  exact hall _ h m rfl

end Invariant

/-- A walk from the requests that comes to an error does so by one step from some moment. -/
theorem Leads.exists_next? (h : lib.Leads (.ok (.start requests)) (.error e)) :
    ∃ m, lib.Invariant requests m ∧ lib.next? m = some (.error e) := by
  rcases h.cases_tail with heq | ⟨_, hm, m, rfl, hnext⟩
  · cases heq
  · exact ⟨m, .of_leads hm, hnext⟩

end Library

end TensorShader
