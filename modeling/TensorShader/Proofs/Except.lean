import Mathlib.Data.List.Forall2

/-! Steps that may fail, taken one after the other over a list: when such a run succeeds, and where
it fails. -/

namespace TensorShader

variable {ε α β γ : Type}

instance decidableEqExcept [DecidableEq ε] [DecidableEq α] : DecidableEq (Except ε α)
  | .error e, .error e' => decidable_of_iff (e = e') ⟨congrArg _, Except.error.inj⟩
  | .ok a, .ok a' => decidable_of_iff (a = a') ⟨congrArg _, Except.ok.inj⟩
  | .error _, .ok _ | .ok _, .error _ => .isFalse nofun

theorem bind_eq_ok_iff {x : Except ε α} {f : α → Except ε β} {b : β} :
    x >>= f = .ok b ↔ ∃ a, x = .ok a ∧ f a = .ok b := by
  cases x with
  | error e => simp [bind, Except.bind]
  | ok a => simp [bind, Except.bind]

theorem bind_eq_error_iff {x : Except ε α} {f : α → Except ε β} {e : ε} :
    x >>= f = .error e ↔ x = .error e ∨ ∃ a, x = .ok a ∧ f a = .error e := by
  cases x with
  | error e => simp [bind, Except.bind]
  | ok a => simp [bind, Except.bind]

theorem map_eq_ok_iff {x : Except ε α} {f : α → β} {b : β} :
    f <$> x = .ok b ↔ ∃ a, x = .ok a ∧ f a = b := by
  cases x with
  | error e => simp [Functor.map, Except.map]
  | ok a => simp [Functor.map, Except.map]

theorem map_eq_error_iff {x : Except ε α} {f : α → β} {e : ε} :
    f <$> x = .error e ↔ x = .error e := by
  cases x with
  | error e => simp [Functor.map, Except.map]
  | ok a => simp [Functor.map, Except.map]

/-- Whether a step succeeds does not depend on how its error is told. -/
theorem mapError_eq_ok_iff {x : Except ε α} {f : ε → γ} {a : α} :
    x.mapError f = .ok a ↔ x = .ok a := by
  cases x with
  | error e => simp [Except.mapError]
  | ok b => simp [Except.mapError]

theorem mapError_eq_error_iff {x : Except ε α} {f : ε → γ} {e : γ} :
    x.mapError f = .error e ↔ ∃ e', x = .error e' ∧ f e' = e := by
  cases x with
  | error e => simp [Except.mapError]
  | ok b => simp [Except.mapError]

theorem foldlM_cons_eq_ok_iff {f : β → α → Except ε β} {a : α} {as : List α} {b c : β} :
    (a :: as).foldlM f b = .ok c ↔ ∃ m, f b a = .ok m ∧ as.foldlM f m = .ok c := by
  rw [List.foldlM_cons, bind_eq_ok_iff]

/-- A run whose items are first computed succeeds if all of them can be computed and the run over
them succeeds. -/
theorem foldlM_bind_eq_ok_iff {f : β → α → Except ε β} {g : γ → Except ε α} {xs : List γ}
    {b c : β} :
    xs.foldlM (fun b x => do f b (← g x)) b = .ok c ↔
      ∃ as : List α, xs.map g = as.map .ok ∧ as.foldlM f b = .ok c := by
  induction xs generalizing b with
  | nil => simp [pure, Except.pure]
  | cons x xs ih =>
    rw [foldlM_cons_eq_ok_iff]
    constructor
    · rintro ⟨m, hm, hrest⟩
      obtain ⟨a, ha, hstep⟩ := bind_eq_ok_iff.mp hm
      obtain ⟨as, has, hfold⟩ := ih.mp hrest
      exact ⟨a :: as, by simp [ha, has], foldlM_cons_eq_ok_iff.mpr ⟨m, hstep, hfold⟩⟩
    · rintro ⟨as, has, hfold⟩
      cases as with
      | nil => simp at has
      | cons a as =>
        obtain ⟨ha, has⟩ := List.cons.inj has
        obtain ⟨m, hstep, hfold⟩ := foldlM_cons_eq_ok_iff.mp hfold
        exact ⟨m, bind_eq_ok_iff.mpr ⟨a, ha, hstep⟩, ih.mpr ⟨as, has, hfold⟩⟩

theorem mapM_eq_ok_iff {f : α → Except ε β} {as : List α} {bs : List β} :
    as.mapM f = .ok bs ↔ List.Forall₂ (fun a b => f a = .ok b) as bs := by
  induction as generalizing bs with
  | nil => simp [pure, Except.pure, eq_comm]
  | cons a as ih =>
    rw [List.mapM_cons, bind_eq_ok_iff]
    constructor
    · rintro ⟨b, hb, hrest⟩
      obtain ⟨tail, htail, hbs⟩ := bind_eq_ok_iff.mp hrest
      obtain rfl := Except.ok.inj hbs
      exact .cons hb (ih.mp htail)
    · rintro (_ | ⟨hb, hrest⟩)
      exact ⟨_, hb, bind_eq_ok_iff.mpr ⟨_, ih.mpr hrest, rfl⟩⟩

theorem mapM_eq_ok_of_imp {f g : α → Except ε β} {as : List α} {bs : List β}
    (hstep : ∀ a b, f a = .ok b → g a = .ok b) (h : as.mapM f = .ok bs) : as.mapM g = .ok bs :=
  mapM_eq_ok_iff.mpr ((mapM_eq_ok_iff.mp h).imp hstep)

/-- Every result is that of an item. -/
theorem exists_of_mem_mapM {f : α → Except ε β} {as : List α} {bs : List β} {b : β}
    (h : as.mapM f = .ok bs) (hb : b ∈ bs) : ∃ a ∈ as, f a = .ok b := by
  have hall := mapM_eq_ok_iff.mp h
  clear h
  induction hall with
  | nil => cases hb
  | cons ha _ ih =>
    rcases List.mem_cons.mp hb with rfl | hb
    · exact ⟨_, List.mem_cons_self, ha⟩
    · obtain ⟨a, has, ha⟩ := ih hb
      exact ⟨a, List.mem_cons_of_mem _ has, ha⟩

theorem mapM_congr {f g : α → Except ε β} {as : List α} (h : ∀ a ∈ as, f a = g a) :
    as.mapM f = as.mapM g := by
  induction as with
  | nil => rfl
  | cons a as ih =>
    obtain ⟨ha, has⟩ := List.forall_mem_cons.mp h
    rw [List.mapM_cons, List.mapM_cons, ha, ih has]

/-- What is taken from the results of a run can be taken at each step. -/
theorem map_mapM {f : α → Except ε β} (φ : β → γ) (as : List α) :
    List.map φ <$> as.mapM f = as.mapM fun a => φ <$> f a := by
  induction as with
  | nil => rfl
  | cons a as ih =>
    rw [List.mapM_cons, List.mapM_cons, ← ih]
    cases f a with
    | error e => rfl
    | ok b => cases as.mapM f <;> rfl

theorem foldlM_congr {f g : β → α → Except ε β} {as : List α} {b : β}
    (h : ∀ a ∈ as, ∀ b, f b a = g b a) : as.foldlM f b = as.foldlM g b := by
  induction as generalizing b with
  | nil => rfl
  | cons a as ih =>
    obtain ⟨ha, has⟩ := List.forall_mem_cons.mp h
    rw [List.foldlM_cons, List.foldlM_cons, ha]
    exact bind_congr fun _ => ih has

/-- Runs whose steps have the same results, though perhaps other errors, have the same results. -/
theorem foldlM_eq_ok_congr {f g : β → α → Except ε β} {as : List α} {b c : β}
    (h : ∀ a b c, f b a = .ok c ↔ g b a = .ok c) : as.foldlM f b = .ok c ↔ as.foldlM g b = .ok c := by
  induction as generalizing b with
  | nil => rfl
  | cons a as ih => simp only [foldlM_cons_eq_ok_iff, h, ih]

theorem mapM_eq_error {f : α → Except ε β} {as : List α} {e : ε} (h : as.mapM f = .error e) :
    ∃ a ∈ as, f a = .error e := by
  induction as with
  | nil => cases h
  | cons a as ih =>
    rw [List.mapM_cons] at h
    rcases bind_eq_error_iff.mp h with h | ⟨b, -, h⟩
    · exact ⟨a, List.mem_cons_self, h⟩
    · rcases bind_eq_error_iff.mp h with h | ⟨bs, -, h⟩
      · obtain ⟨a', ha', hf⟩ := ih h
        exact ⟨a', List.mem_cons_of_mem a ha', hf⟩
      · cases h

/-- If every item has a result that is related to it, the results are, one by one. -/
theorem exists_mapM_eq_ok {f : α → Except ε β} {R : α → β → Prop} {as : List α}
    (h : ∀ a ∈ as, ∃ b, f a = .ok b ∧ R a b) :
    ∃ bs, as.mapM f = .ok bs ∧ List.Forall₂ R as bs := by
  induction as with
  | nil => exact ⟨[], rfl, .nil⟩
  | cons a as ih =>
    obtain ⟨⟨b, hb, hab⟩, hall⟩ := List.forall_mem_cons.mp h
    obtain ⟨bs, hbs, hrest⟩ := ih hall
    exact ⟨b :: bs, mapM_eq_ok_iff.mpr (.cons hb (mapM_eq_ok_iff.mp hbs)), .cons hab hrest⟩

/-- If it depends on the item alone whether a step succeeds, a run succeeds exactly if a step does
so for every item. -/
theorem exists_foldlM_eq_ok_iff {f : β → α → Except ε β} {P : α → Prop} {as : List α}
    (hstep : ∀ b a, (∃ c, f b a = .ok c) ↔ P a) (b : β) :
    (∃ c, as.foldlM f b = .ok c) ↔ ∀ a ∈ as, P a := by
  induction as generalizing b with
  | nil => simp [pure, Except.pure]
  | cons a as ih =>
    simp only [foldlM_cons_eq_ok_iff, List.forall_mem_cons]
    constructor
    · rintro ⟨c, m, hm, hrest⟩
      exact ⟨(hstep b a).1 ⟨m, hm⟩, (ih m).1 ⟨c, hrest⟩⟩
    · rintro ⟨ha, has⟩
      obtain ⟨m, hm⟩ := (hstep b a).2 ha
      obtain ⟨c, hc⟩ := (ih m).2 has
      exact ⟨c, m, hm, hc⟩

/-- If steps on the images of values do to the images what steps do to the values, so does a run. It
suffices that this holds of values with a property that steps keep. -/
theorem foldlM_map_of_step {f : β → α → Except ε β} {g : γ → α → Except ε γ} {φ : β → γ}
    {P : β → Prop} {as : List α} {b : β}
    (hstep : ∀ a ∈ as, ∀ b, P b → g (φ b) a = φ <$> f b a)
    (hkeep : ∀ a ∈ as, ∀ b c, P b → f b a = .ok c → P c) (hb : P b) :
    as.foldlM g (φ b) = φ <$> as.foldlM f b := by
  induction as generalizing b with
  | nil => rfl
  | cons a as ih =>
    rw [List.foldlM_cons, List.foldlM_cons, hstep a List.mem_cons_self b hb]
    cases hf : f b a with
    | error e => rfl
    | ok c =>
      exact ih (fun a' ha => hstep a' (List.mem_cons_of_mem a ha))
        (fun a' ha => hkeep a' (List.mem_cons_of_mem a ha)) (hkeep a List.mem_cons_self b c hb hf)

theorem foldlM_eq_error {f : β → α → Except ε β} {as : List α} {b : β} {e : ε}
    (h : as.foldlM f b = .error e) : ∃ a ∈ as, ∃ m, f m a = .error e := by
  induction as generalizing b with
  | nil => cases h
  | cons a as ih =>
    rw [List.foldlM_cons] at h
    rcases bind_eq_error_iff.mp h with h | ⟨m, -, h⟩
    · exact ⟨a, List.mem_cons_self, b, h⟩
    · obtain ⟨x, hx, m', hm'⟩ := ih h
      exact ⟨x, List.mem_cons_of_mem a hx, m', hm'⟩

/-- `x` does not fail with an error of a kind. -/
def Avoids (bad : ε → Prop) (x : Except ε α) : Prop := ∀ e, x = .error e → ¬bad e

section Avoids

variable {bad : ε → Prop}

theorem avoids_ok (bad : ε → Prop) (a : α) : Avoids bad (.ok a) := nofun

theorem Avoids.map {x : Except ε α} (h : Avoids bad x) (f : α → β) : Avoids bad (f <$> x) :=
  fun e he => h e (map_eq_error_iff.mp he)

/-- Steps that do the same unless they fail with an error of a kind do the same one after the other,
unless this fails so. -/
theorem bind_eq_of_avoids {x y : Except ε α} {f g : α → Except ε β} (hx : Avoids bad x → y = x)
    (hf : ∀ a, Avoids bad (f a) → g a = f a) (h : Avoids bad (x >>= f)) :
    y >>= g = x >>= f := by
  cases x with
  | error e => rw [hx fun _ he => h _ (congrArg Except.error (Except.error.inj he))]; rfl
  | ok a => rw [hx (avoids_ok bad a)]; exact hf a h

theorem foldlM_eq_of_avoids {f g : β → α → Except ε β} {as : List α} {b : β}
    (hstep : ∀ b a, Avoids bad (f b a) → g b a = f b a) (h : Avoids bad (as.foldlM f b)) :
    as.foldlM g b = as.foldlM f b := by
  induction as generalizing b with
  | nil => rfl
  | cons a as ih =>
    rw [List.foldlM_cons] at h
    rw [List.foldlM_cons, List.foldlM_cons]
    exact bind_eq_of_avoids (hstep b a) (fun _ => ih) h

end Avoids

end TensorShader
