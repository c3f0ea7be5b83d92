import TensorShader.Proofs.Number.Decimal
import TensorShader.Proofs.Number.Nearest

/-! The fewest digits that identify a number round to it: every scaled value that is tried lies
between the midpoints to the next magnitudes, or is the number itself. So what is written for a
magnitude denotes a number that is nearest to it. -/

namespace TensorShader.Binary64

variable {m v : Nat}

theorem scaled_strictMono : StrictMono scaled := by
  intro m m' h
  unfold scaled
  refine Nat.mul_lt_mul_of_pos_right (unitsOf_strictMono h) ?_
  apply Nat.pow_pos
  decide

theorem scaled_pos (h : 0 < m) : 0 < scaled m := Nat.zero_lt_of_lt (scaled_strictMono h)

theorem roundsTo_iff : roundsTo m v = true ↔
    scaled (m - 1) + scaled m ≤ 2 * v ∧ 2 * v ≤ scaled m + scaled (m + 1) ∧
      (scaled (m - 1) + scaled m = 2 * v ∨ 2 * v = scaled m + scaled (m + 1) → m % 2 = 0) := by
  unfold roundsTo
  simp only
  split <;>
  · simp only [Bool.and_eq_true, decide_eq_true_eq]
    omega

theorem roundsTo_scaled (m : Nat) : roundsTo m (scaled m) = true := by
  have hupper : scaled m < scaled (m + 1) := scaled_strictMono (Nat.lt_succ_self m)
  have hlower : scaled (m - 1) ≤ scaled m := scaled_strictMono.monotone (Nat.sub_le m 1)
  rw [roundsTo_iff]
  rcases Nat.mod_two_eq_zero_or_one m with heven | hodd
  · omega
  · have hless : scaled (m - 1) < scaled m := scaled_strictMono (by omega)
    omega

theorem pos_of_roundsTo (hm : 0 < m) (h : roundsTo m v = true) : 0 < v := by
  have hscaled := scaled_pos hm
  obtain ⟨hlower, -, -⟩ := roundsTo_iff.1 h
  omega

theorem roundsTo_of_neighbour? {step : Nat} (h : neighbour? m step = some v) :
    roundsTo m v = true := by
  unfold neighbour? at h
  simp only at h
  split at h
  · rename_i hbelow
    obtain rfl := Option.some.inj h
    exact (Bool.and_eq_true _ _ ▸ hbelow).1
  · split at h
    · obtain rfl := Option.some.inj h
      assumption
    · cases h

theorem roundsTo_shortestScaled (m : Nat) : roundsTo m (shortestScaled m) = true := by
  unfold shortestScaled
  simp only
  cases h : (List.range 17).findSome? fun i =>
      neighbour? m (Nat.pow 10 (digitCount (scaled m) - (i + 1))) with
  | none => exact roundsTo_scaled m
  | some v =>
    obtain ⟨i, -, hi⟩ := List.exists_of_findSome?_eq_some h
    exact roundsTo_of_neighbour? hi

theorem shortestScaled_pos (hm : 0 < m) : 0 < shortestScaled m :=
  pos_of_roundsTo hm (roundsTo_shortestScaled m)

theorem units_of_scaled (v : Nat) : (v / Nat.pow 5 1074 / unit : ℚ) = v / 10 ^ 1074 := by
  rw [unit]
  generalize 1074 = e
  have hten : (10 : ℚ) ^ e = 5 ^ e * 2 ^ e := by
    rw [← mul_pow]
    norm_num
  rw [Nat.shiftLeft_eq, Nat.one_mul, Nat.pow_eq, div_div, hten]
  push_cast
  rfl

/-- Scaling keeps the midpoints between magnitudes. -/
theorem isNearest_of_roundsTo (hm : m ≤ infinityMagnitude) (h : roundsTo m v = true) :
    IsNearest (v / 10 ^ 1074) m := by
  obtain ⟨hlower, hupper, heven⟩ := roundsTo_iff.1 h
  have hpos : 0 < Nat.pow 5 1074 := by
    apply Nat.pow_pos
    decide
  have hsum (k m : Nat) : (unitsOf k + unitsOf m) * Nat.pow 5 1074 = scaled k + scaled m :=
    Nat.add_mul _ _ _
  rw [← units_of_scaled]
  refine isNearest_of_units hpos hm (fun k hk => ?_) fun _ => ?_
  · obtain rfl : k = m - 1 := by omega
    rw [hsum]
    exact ⟨hlower, fun heq => heven (.inl heq)⟩
  · rw [hsum]
    exact ⟨hupper, fun heq => heven (.inr heq)⟩

theorem dropTrailingZeros_append (ds : List Char) :
    ∃ j, ds = dropTrailingZeros ds ++ List.replicate j '0' := by
  have hcut := List.takeWhile_append_dropWhile (p := (· == '0')) (l := ds.reverse)
  have hzeros : ∀ c ∈ ds.reverse.takeWhile (· == '0'), c = '0' := by
    intro c hc
    simpa using List.mem_takeWhile_imp hc
  rw [List.eq_replicate_of_mem hzeros] at hcut
  refine ⟨(ds.reverse.takeWhile (· == '0')).length, ?_⟩
  rw [dropTrailingZeros, ← List.reverse_replicate, ← List.reverse_append, hcut,
    List.reverse_reverse]

/-- The digits of a magnitude are those of its scaled value up to zeros behind them. -/
theorem shortest_digits (m : Nat) : ∃ j : Nat,
    (shortest m).point = (shortest m).digits.length + j - 1074 ∧
      shortestScaled m = 10 ^ j * Nat.ofDigitChars 10 (shortest m).digits 0 := by
  obtain ⟨j, hj⟩ := dropTrailingZeros_append (Nat.toDigits 10 (shortestScaled m))
  refine ⟨j, ?_, ?_⟩
  · have hlength := congrArg List.length hj
    rw [List.length_append, List.length_replicate] at hlength
    unfold shortest
    simp only
    omega
  · calc shortestScaled m
        = Nat.ofDigitChars 10 (Nat.toDigits 10 (shortestScaled m)) 0 :=
          Nat.ofDigitChars_ten_toDigits.symm
      _ = 10 ^ j * Nat.ofDigitChars 10 (shortest m).digits 0 := by
          rw [hj, Nat.ofDigitChars_append, Nat.ofDigitChars_replicate_zero]
          rfl

/-- The digits of a magnitude above zero do not all disappear as trailing zeros. -/
theorem isDigits_shortest (hm : 0 < m) : isDigits (shortest m).digits = true := by
  refine isDigits_iff.2 ⟨fun hnil => ?_, fun _ => isDigit_of_mem_shortest⟩
  obtain ⟨j, -, hvalue⟩ := shortest_digits m
  have hpos := shortestScaled_pos hm
  rw [hvalue, hnil] at hpos
  exact absurd hpos (Nat.lt_irrefl _)

theorem value_shortest (m : Nat) : (shortest m).value = shortestScaled m / 10 ^ 1074 := by
  obtain ⟨j, hpoint, hvalue⟩ := shortest_digits m
  have hten : (10 : ℚ) ≠ 0 := by norm_num
  have hexponent : (shortest m).digits.length + j - 1074 - (shortest m).digits.length =
      (j : Int) - (1074 : Nat) := by omega
  rw [Decimal.value, hpoint, hvalue, hexponent, zpow_sub₀ hten, zpow_natCast, zpow_natCast]
  generalize 1074 = e
  push_cast
  ring

/-- The first digit of a magnitude is not zero, so that the point says how large it is. -/
theorem zpow_le_value_shortest_iff (hm : 0 < m) (k : Int) :
    10 ^ k ≤ (shortest m).value ↔ k < (shortest m).point := by
  have hten : (1 : ℚ) < 10 := by norm_num
  have hpos := shortestScaled_pos hm
  have hpoint : (shortest m).point = (Nat.toDigits 10 (shortestScaled m)).length - 1074 := rfl
  have hdigits (j : Nat) (hj : 0 < j) :
      (Nat.toDigits 10 (shortestScaled m)).length ≤ j ↔ shortestScaled m < 10 ^ j :=
    Nat.length_toDigits_le_iff (by decide) hj
  rw [value_shortest, hpoint]
  generalize shortestScaled m = v at *
  generalize hlength : (Nat.toDigits 10 v).length = n at *
  have hn : 0 < n := hlength ▸ Nat.length_toDigits_pos
  have hupper : (v : ℚ) < 10 ^ (n : Int) := by
    have h := (hdigits n hn).1 le_rfl
    exact_mod_cast h
  have hlower : (10 : ℚ) ^ ((n : Int) - 1) ≤ v := by
    obtain ⟨j, rfl⟩ : ∃ j, n = j + 1 := ⟨n - 1, by omega⟩
    have hle : 10 ^ j ≤ v := by
      rcases Nat.eq_zero_or_pos j with rfl | hj
      · exact hpos
      · exact Nat.le_of_not_lt (mt (hdigits j hj).2 (by omega))
    rw [Nat.cast_succ, add_sub_cancel_right, zpow_natCast]
    exact_mod_cast hle
  have hscale (e : Nat) : (10 : ℚ) ^ k ≤ v / 10 ^ e ↔ (10 : ℚ) ^ (k + e) ≤ v := by
    rw [le_div_iff₀ (by positivity), zpow_add₀ (by norm_num), zpow_natCast]
  rw [hscale]
  constructor
  · intro h
    have hlt := (zpow_lt_zpow_iff_right₀ hten).1 (lt_of_le_of_lt h hupper)
    omega
  · intro h
    exact le_trans (zpow_le_zpow_right₀ hten.le (by omega)) hlower

theorem isNearest_shortest (hm : m < infinityMagnitude) : IsNearest (shortest m).value m := by
  rw [value_shortest]
  exact isNearest_of_roundsTo hm.le (roundsTo_shortestScaled m)

/-- The number that is written for a magnitude. -/
def writtenValue (m : Nat) : ℚ := if m = 0 then 0 else (shortest m).value

theorem denotes_magnitudeText (style : NumberStyle) (m : Nat) :
    Denotes (magnitudeText style m) (writtenValue m) := by
  unfold magnitudeText writtenValue
  split
  · have hzero : decimalValue ['0'] ['0'] 0 = 0 := by
      have hdigits : Nat.ofDigitChars 10 (['0'] ++ ['0']) 0 = 0 := rfl
      rw [decimalValue, hdigits, Nat.cast_zero, zero_mul]
    have hdigit : isDigits ['0'] = true := by decide
    exact hzero ▸ Denotes.point hdigit hdigit
  · rename_i hm
    exact Decimal.denotes_text (isDigits_shortest (Nat.pos_of_ne_zero hm)) style

theorem isNearest_writtenValue (hm : m < infinityMagnitude) : IsNearest (writtenValue m) m := by
  unfold writtenValue
  split
  · rename_i hzero
    subst hzero
    have hscaled : scaled 0 = 0 := by
      unfold scaled
      generalize Nat.pow 5 1074 = scale
      rw [unitsOf, if_pos binade_pos, Nat.zero_mul]
    have h := isNearest_of_roundsTo hm.le (roundsTo_scaled 0)
    rwa [hscaled, Nat.cast_zero, zero_div] at h
  · exact isNearest_shortest hm

theorem mem_magnitudeText_iff (m : Nat) :
    'e' ∈ magnitudeText .literal m ↔
      writtenValue m ≠ 0 ∧ (writtenValue m < 1 / 10 ^ 4 ∨ 10 ^ 16 ≤ writtenValue m) := by
  unfold magnitudeText writtenValue
  split
  · simp
  · rename_i hm
    have hsize := zpow_le_value_shortest_iff (Nat.pos_of_ne_zero hm)
    have hlow : 1 / 10 ^ 4 ≤ (shortest m).value ↔ -4 < (shortest m).point := by
      have hpow : (10 : ℚ) ^ (-4 : Int) = 1 / 10 ^ 4 := by norm_num
      rw [← hpow]
      exact hsize (-4)
    have hhigh : 10 ^ 16 ≤ (shortest m).value ↔ 16 < (shortest m).point := hsize 16
    have hvalue : 0 < (shortest m).value := by
      have hfirst := (hsize ((shortest m).point - 1)).2 (by omega)
      exact lt_of_lt_of_le (zpow_pos (by norm_num) _) hfirst
    rw [Decimal.mem_text_iff fun _ => isDigit_of_mem_shortest, ← not_le, hlow, hhigh]
    simp only [NumberStyle.isPositional, decide_eq_false_iff_not, ne_eq, hvalue.ne', not_false_iff,
      true_and]
    omega

end TensorShader.Binary64
