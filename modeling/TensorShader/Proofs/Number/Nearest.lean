import TensorShader.Number.Binary64
import Mathlib.Algebra.Order.Field.Basic
import Mathlib.Order.Monotone.Basic
import Mathlib.Tactic.FieldSimp
import Mathlib.Tactic.Linarith
import Mathlib.Tactic.Positivity
import Mathlib.Tactic.Ring

/-! Rounding to the nearest number: the values of magnitudes in their order, what it means to be
nearest to a rational number, that only one magnitude is, and that rounding finds it. -/

namespace TensorShader.Binary64

theorem binade_pos : 0 < binade := by decide

theorem binade_eq : binade = 2 ^ 52 := rfl

theorem unit_pos : 0 < unit := by
  have hpos (e : Nat) : 0 < 1 <<< e := by
    rw [Nat.shiftLeft_eq, Nat.one_mul]
    exact Nat.two_pow_pos e
  exact hpos 1074

/-- A magnitude is a number of binades and a rest, of which the first binade is doubled once less
than the count says. -/
theorem unitsOf_eq {d r : Nat} (hr : r ≤ 2 * binade) (h : d = 0 ∨ binade ≤ r) :
    unitsOf (d * binade + r) = r * 2 ^ d := by
  have hpos := binade_pos
  rcases Nat.lt_or_ge r binade with hlt | hge
  · obtain rfl : d = 0 := by omega
    rw [Nat.zero_mul, Nat.zero_add, unitsOf, if_pos hlt, Nat.pow_zero, Nat.mul_one]
  · have hnot : ¬d * binade + r < binade := by omega
    rcases Nat.lt_or_ge r (2 * binade) with hlt | hfull
    · have hsplit : d * binade + r = r - binade + (d + 1) * binade := by
        rw [Nat.add_mul]
        omega
      have hdiv : (d * binade + r) / binade = d + 1 := by
        rw [hsplit, Nat.add_mul_div_right _ _ hpos, Nat.div_eq_of_lt (by omega), Nat.zero_add]
      have hmod : (d * binade + r) % binade = r - binade := by
        rw [hsplit, Nat.add_mul_mod_self_right, Nat.mod_eq_of_lt (by omega)]
      rw [unitsOf, if_neg hnot, hdiv, hmod, Nat.shiftLeft_eq, Nat.add_sub_cancel,
        Nat.add_sub_cancel' hge]
    · obtain rfl : r = 2 * binade := by omega
      have hsplit : d * binade + 2 * binade = (d + 2) * binade := by rw [Nat.add_mul]
      rw [unitsOf, if_neg hnot, hsplit, Nat.mul_div_cancel _ hpos, Nat.mul_mod_left,
        Nat.shiftLeft_eq, Nat.add_zero]
      have hexp : d + 2 - 1 = d + 1 := by omega
      rw [hexp, Nat.pow_succ]
      ring

theorem exists_binade (m : Nat) :
    ∃ d r, m = d * binade + r ∧ r < 2 * binade ∧ (d = 0 ∨ binade ≤ r) := by
  have hpos := binade_pos
  rcases Nat.lt_or_ge m binade with hlt | hge
  · exact ⟨0, m, by omega, by omega, .inl rfl⟩
  · have hdiv : 1 ≤ m / binade := (Nat.one_le_div_iff hpos).2 hge
    have hmod := Nat.mod_lt m hpos
    have hsplit := Nat.div_add_mod' m binade
    refine ⟨m / binade - 1, binade + m % binade, ?_, by omega, .inr (by omega)⟩
    have hone : (m / binade - 1) * binade + binade = m / binade * binade := by
      rw [← Nat.succ_mul, Nat.succ_eq_add_one, Nat.sub_add_cancel hdiv]
    omega

theorem unitsOf_strictMono : StrictMono unitsOf := by
  apply strictMono_nat_of_lt_succ
  intro m
  obtain ⟨d, r, rfl, hr, h⟩ := exists_binade m
  rw [unitsOf_eq (by omega) h, Nat.add_assoc, unitsOf_eq (by omega) (by omega)]
  have hpow : 0 < 2 ^ d := Nat.pow_pos (by decide)
  exact Nat.mul_lt_mul_of_pos_right (Nat.lt_succ_self r) hpow

/-- The value of a magnitude. Infinity has that of the power of two that follows the finite ones. -/
def value (m : Nat) : ℚ := unitsOf m / unit

theorem value_strictMono : StrictMono value := by
  intro m m' h
  exact div_lt_div_of_pos_right (Nat.cast_lt.2 (unitsOf_strictMono h)) (Nat.cast_pos.2 unit_pos)

/-- `m` is the magnitude whose value is nearest to `q`, and if another is as near, it is even. -/
structure IsNearest (q : ℚ) (m : Nat) : Prop where
  le : m ≤ infinityMagnitude
  nearest : ∀ m' ≤ infinityMagnitude, |q - value m| ≤ |q - value m'|
  even : ∀ m' ≤ infinityMagnitude, m' ≠ m → |q - value m'| = |q - value m| → m % 2 = 0

section

variable {a b q : ℚ}

theorem dist_right_le_iff (h : a < b) : |q - b| ≤ |q - a| ↔ a + b ≤ 2 * q := by
  rw [← sq_le_sq]
  constructor
  · intro hsq
    nlinarith
  · intro hmid
    nlinarith

theorem dist_left_le_iff (h : a < b) : |q - a| ≤ |q - b| ↔ 2 * q ≤ a + b := by
  rw [← sq_le_sq]
  constructor
  · intro hsq
    nlinarith
  · intro hmid
    nlinarith

end

variable {q : ℚ} {m m' : Nat}

/-- A magnitude is nearest to `q` if `q` lies between the midpoints to the magnitudes next to it, and
on a midpoint only if the magnitude is even. -/
theorem isNearest_of_midpoints (hle : m ≤ infinityMagnitude)
    (hlower : ∀ k, k + 1 = m →
      value k + value m ≤ 2 * q ∧ (value k + value m = 2 * q → m % 2 = 0))
    (hupper : m < infinityMagnitude →
      2 * q ≤ value m + value (m + 1) ∧ (2 * q = value m + value (m + 1) → m % 2 = 0)) :
    IsNearest q m := by
  have hbelow {k : Nat} (hk : k < m) :
      value k + value m ≤ 2 * q ∧ (value k + value m = 2 * q → m % 2 = 0) := by
    obtain ⟨p, rfl⟩ : ∃ p, p + 1 = m := ⟨m - 1, by omega⟩
    have hkp : value k ≤ value p := value_strictMono.monotone (by omega)
    obtain ⟨hmid, heven⟩ := hlower p rfl
    exact ⟨by linarith, fun heq => heven (by linarith)⟩
  have habove {k : Nat} (hk : m < k) (hkle : k ≤ infinityMagnitude) :
      2 * q ≤ value m + value k ∧ (2 * q = value m + value k → m % 2 = 0) := by
    have hmk : value (m + 1) ≤ value k := value_strictMono.monotone hk
    obtain ⟨hmid, heven⟩ := hupper (by omega)
    exact ⟨by linarith, fun heq => heven (by linarith)⟩
  refine ⟨hle, fun k hk => ?_, fun k hk hne heq => ?_⟩
  · rcases Nat.lt_trichotomy k m with hlt | rfl | hgt
    · exact (dist_right_le_iff (value_strictMono hlt)).2 (hbelow hlt).1
    · exact le_rfl
    · exact (dist_left_le_iff (value_strictMono hgt)).2 (habove hgt hk).1
  · rcases Nat.lt_trichotomy k m with hlt | rfl | hgt
    · have hmid := (dist_left_le_iff (value_strictMono hlt)).1 heq.le
      exact (hbelow hlt).2 (le_antisymm (hbelow hlt).1 hmid)
    · exact absurd rfl hne
    · have hmid := (dist_right_le_iff (value_strictMono hgt)).1 heq.le
      exact (habove hgt hk).2 (le_antisymm (habove hgt hk).1 hmid)

theorem IsNearest.not_lt (h : IsNearest q m) (h' : IsNearest q m') : ¬m < m' := by
  intro hlt
  -- both are as near, hence even, and a magnitude between them is nearer
  have hdist := le_antisymm (h.nearest m' h'.le) (h'.nearest m h.le)
  have heven := h.even m' h'.le (Nat.ne_of_gt hlt) hdist.symm
  have heven' := h'.even m h.le (Nat.ne_of_lt hlt) hdist
  have hnext := h.nearest (m + 1) (Nat.le_trans hlt h'.le)
  rw [dist_left_le_iff (value_strictMono (Nat.lt_succ_self m))] at hnext
  have hmid := (dist_right_le_iff (value_strictMono hlt)).1 hdist.symm.le
  have hbetween : value (m + 1) < value m' := value_strictMono (by omega)
  linarith

theorem IsNearest.unique (h : IsNearest q m) (h' : IsNearest q m') : m = m' := by
  have hlt := h.not_lt h'
  have hgt := h'.not_lt h
  omega

/-- A rounded quotient is off by half of the divisor at most, and by just half only if it is even. -/
theorem roundDiv_bounds (num : Nat) {den : Nat} (hden : 0 < den) :
    ∃ r, roundDiv num den = r ∧ num / den ≤ r ∧ r ≤ num / den + 1 ∧
      2 * (r * den) ≤ 2 * num + den ∧ (2 * (r * den) = 2 * num + den → r % 2 = 0) ∧
      2 * num ≤ 2 * (r * den) + den ∧ (2 * num = 2 * (r * den) + den → r % 2 = 0) := by
  have hsplit := Nat.div_add_mod' num den
  have hmod := Nat.mod_lt num hden
  unfold roundDiv
  simp only
  generalize num / den = v at *
  generalize num % den = rest at *
  have hone : (v + 1) * den = v * den + den := Nat.succ_mul v den
  rcases Nat.lt_trichotomy (2 * rest) den with hlow | htie | hhigh
  · rw [if_pos hlow]
    exact ⟨v, rfl, by omega⟩
  · rw [if_neg (by omega), if_neg (by omega)]
    rcases Nat.mod_two_eq_zero_or_one v with heven | hodd
    · exact ⟨v, by omega, by omega⟩
    · exact ⟨v + 1, by omega, by omega⟩
  · rw [if_neg (by omega), if_pos hhigh]
    exact ⟨v + 1, rfl, by omega⟩

/-- The doublings of a quotient leave 53 bits of it, the first of which is set if there are any. -/
theorem quotient_bounds {num den d : Nat} (hd : d = (num / den).log2 - 52) :
    num / (den * 2 ^ d) < 2 * binade ∧ (d = 0 ∨ binade ≤ num / (den * 2 ^ d)) := by
  have hpow : 0 < 2 ^ d := Nat.two_pow_pos d
  rw [← Nat.div_div_eq_div_mul]
  constructor
  · rw [Nat.div_lt_iff_lt_mul hpow, binade_eq, ← Nat.pow_succ', ← Nat.pow_add]
    calc num / den < 2 ^ ((num / den).log2 + 1) := Nat.lt_log2_self
      _ ≤ 2 ^ (52 + 1 + d) := Nat.pow_le_pow_right (by decide) (by omega)
  · rcases Nat.eq_zero_or_pos d with hzero | hpos
    · exact .inl hzero
    · have hne : num / den ≠ 0 := by
        intro hzero
        rw [hzero] at hd
        simp at hd
        omega
      right
      rw [Nat.le_div_iff_mul_le hpow, binade_eq, ← Nat.pow_add]
      calc 2 ^ (52 + d) = 2 ^ (num / den).log2 := by congr 1; omega
        _ ≤ num / den := Nat.log2_self_le hne

section Quotient

variable {num den : Nat} (hden : 0 < den)
include hden

theorem midpoint_le_iff (k m : Nat) :
    value k + value m ≤ 2 * (num / den / unit : ℚ) ↔
      (unitsOf k + unitsOf m) * den ≤ 2 * num := by
  have hunit : (0 : ℚ) < unit := Nat.cast_pos.2 unit_pos
  have hcast : (0 : ℚ) < den := Nat.cast_pos.2 hden
  rw [value, value, ← add_div, ← mul_div_assoc, div_le_div_iff_of_pos_right hunit,
    ← mul_div_assoc, le_div_iff₀ hcast]
  exact_mod_cast Iff.rfl

theorem le_midpoint_iff (k m : Nat) :
    2 * (num / den / unit : ℚ) ≤ value k + value m ↔
      2 * num ≤ (unitsOf k + unitsOf m) * den := by
  have hunit : (0 : ℚ) < unit := Nat.cast_pos.2 unit_pos
  have hcast : (0 : ℚ) < den := Nat.cast_pos.2 hden
  rw [value, value, ← add_div, ← mul_div_assoc, div_le_div_iff_of_pos_right hunit,
    ← mul_div_assoc, div_le_iff₀ hcast]
  exact_mod_cast Iff.rfl

theorem isNearest_of_units {m : Nat} (hle : m ≤ infinityMagnitude)
    (hlower : ∀ k, k + 1 = m → (unitsOf k + unitsOf m) * den ≤ 2 * num ∧
      ((unitsOf k + unitsOf m) * den = 2 * num → m % 2 = 0))
    (hupper : m < infinityMagnitude → 2 * num ≤ (unitsOf m + unitsOf (m + 1)) * den ∧
      (2 * num = (unitsOf m + unitsOf (m + 1)) * den → m % 2 = 0)) :
    IsNearest (num / den / unit) m := by
  refine isNearest_of_midpoints hle (fun k hk => ?_) fun hm => ?_
  · obtain ⟨hmid, heven⟩ := hlower k hk
    exact ⟨(midpoint_le_iff hden k m).2 hmid, fun heq => heven
      (Nat.le_antisymm hmid ((le_midpoint_iff hden k m).1 heq.ge))⟩
  · obtain ⟨hmid, heven⟩ := hupper hm
    exact ⟨(le_midpoint_iff hden m (m + 1)).2 hmid, fun heq => heven
      (Nat.le_antisymm hmid ((midpoint_le_iff hden m (m + 1)).1 heq.ge))⟩

/-- A rounded magnitude that is not too large lies between the midpoints to its neighbours. -/
theorem rounded_bounds {d m : Nat} (hd : d = (num / den).log2 - 52)
    (hm : m = d * binade + roundDiv num (den * 2 ^ d)) :
    (∀ k, k + 1 = m → (unitsOf k + unitsOf m) * den ≤ 2 * num ∧
      ((unitsOf k + unitsOf m) * den = 2 * num → m % 2 = 0)) ∧
    2 * num ≤ (unitsOf m + unitsOf (m + 1)) * den ∧
      (2 * num = (unitsOf m + unitsOf (m + 1)) * den → m % 2 = 0) := by
  have hscaled : 0 < den * 2 ^ d := Nat.mul_pos hden (Nat.two_pow_pos d)
  obtain ⟨hbelow, habove⟩ := quotient_bounds hd
  obtain ⟨r, hr, hle, hge, hlow, hloweven, hhigh, hhigheven⟩ := roundDiv_bounds num hscaled
  rw [hr] at hm
  subst hm
  have hparity : (d * binade + r) % 2 = r % 2 := by
    have hbinade : binade = 2 * 2251799813685248 := rfl
    rw [hbinade, Nat.mul_left_comm, Nat.mul_add_mod]
  have hunits := unitsOf_eq (d := d) (r := r) (by omega) (by omega)
  have hmul (s : Nat) : s * 2 ^ d * den = s * (den * 2 ^ d) := by ring
  rw [hparity, hunits]
  simp only [Nat.add_mul, hmul]
  generalize den * 2 ^ d = step at *
  have hsucc (s : Nat) : (s + 1) * step = s * step + step := Nat.succ_mul s step
  constructor
  · intro k hk
    by_cases hinside : d = 0 ∨ binade < r
    · have hpos : 0 < r := by
        rcases hinside with rfl | hfirst
        · rw [Nat.zero_mul] at hk
          omega
        · omega
      obtain ⟨s, rfl⟩ : ∃ s, r = s + 1 := ⟨r - 1, by omega⟩
      obtain rfl : k = d * binade + s := by omega
      rw [unitsOf_eq (by omega) (by omega), hmul, hsucc]
      rw [hsucc] at hlow hloweven
      exact ⟨by omega, fun heq => hloweven (by omega)⟩
    · -- below the first magnitude of a binade the next one is nearer than the step says
      have hr : r = binade := by omega
      have hless : unitsOf k * den < r * step := by
        rw [← hmul, ← hunits]
        exact Nat.mul_lt_mul_of_pos_right (unitsOf_strictMono (by omega)) hden
      have hquotient : r * step ≤ num := by
        rw [hr, ← Nat.le_div_iff_mul_le hscaled]
        omega
      omega
  · by_cases hinside : r < 2 * binade
    · rw [Nat.add_assoc, unitsOf_eq (by omega) (by omega), hmul, hsucc]
      exact ⟨by omega, fun heq => hhigheven (by omega)⟩
    · have hr : r = 2 * binade := by omega
      have hless : r * step < unitsOf (d * binade + r + 1) * den := by
        rw [← hmul, ← hunits]
        exact Nat.mul_lt_mul_of_pos_right (unitsOf_strictMono (by omega)) hden
      have hquotient : num < r * step := by
        rw [hr, ← Nat.div_lt_iff_lt_mul hscaled]
        exact hbelow
      omega

theorem isNearest_roundMagnitude : IsNearest (num / den / unit) (roundMagnitude num den) := by
  unfold roundMagnitude
  simp only [Nat.shiftLeft_eq]
  obtain ⟨hlower, hmid, heven⟩ := @rounded_bounds num den hden _ _ rfl rfl
  generalize (num / den).log2 - 52 = d at *
  generalize d * binade + roundDiv num (den * 2 ^ d) = m at *
  rcases Nat.lt_or_ge infinityMagnitude m with hgt | hle
  · rw [Nat.min_eq_left hgt.le]
    refine isNearest_of_units hden le_rfl (fun k hk => ⟨?_, fun _ => by decide⟩)
      fun h => absurd h (Nat.lt_irrefl _)
    calc (unitsOf k + unitsOf infinityMagnitude) * den
        ≤ (unitsOf (m - 1) + unitsOf m) * den :=
          Nat.mul_le_mul_right den (Nat.add_le_add (unitsOf_strictMono.monotone (by omega))
            (unitsOf_strictMono.monotone hgt.le))
      _ ≤ 2 * num := (hlower (m - 1) (by omega)).1
  · rw [Nat.min_eq_right hle]
    exact isNearest_of_units hden hle hlower fun _ => ⟨hmid, heven⟩

end Quotient

end TensorShader.Binary64
