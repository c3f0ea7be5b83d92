import TensorShader.Proofs.Number.FloatLiteral
import TensorShader.Template.Render

/-! Literals of floating-point type are faithful: the exact value of what is written for a finite
number rounds to that number again, and to no other. -/

namespace TensorShader

/-- The sign and the number that a literal denotes, which may have a minus sign. -/
def DenotesSigned (s : String) (negative : Bool) (q : ℚ) : Prop :=
  ∃ cs, Denotes cs q ∧ s.toList = if negative then '-' :: cs else cs

theorem DenotesSigned.unique {s : String} {negative negative' : Bool} {q q' : ℚ}
    (h : DenotesSigned s negative q) (h' : DenotesSigned s negative' q') :
    negative = negative' ∧ q = q' := by
  obtain ⟨cs, hcs, hs⟩ := h
  obtain ⟨cs', hcs', hs'⟩ := h'
  have hminus {cs cs' : List Char} {q : ℚ} (hcs : Denotes cs q) : cs ≠ '-' :: cs' := by
    rintro rfl
    obtain ⟨c, tail, htail, hc⟩ := hcs.isMagnitude.exists_digit
    rw [← (List.cons.inj htail).1] at hc
    exact absurd hc (by decide)
  rw [hs] at hs'
  cases negative <;> cases negative' <;> simp only [Bool.false_eq_true, if_false, if_true] at hs'
  · subst hs'
    exact ⟨rfl, hcs.unique hcs'⟩
  · exact absurd hs' (hminus hcs)
  · exact absurd hs'.symm (hminus hcs')
  · obtain rfl := (List.cons.inj hs').2
    exact ⟨rfl, hcs.unique hcs'⟩

namespace Binary64

/-- `x` is `q` rounded, with the given sign, which a zero has as well. -/
structure IsRounded (negative : Bool) (q : ℚ) (x : Binary64) : Prop where
  sign : x.negative = negative
  nearest : IsNearest q x.magnitude

variable {negative : Bool} {q : ℚ} {x y : Binary64}

theorem IsRounded.unique (h : IsRounded negative q x) (h' : IsRounded negative q y) : x = y := by
  rw [← ofMagnitude_negative_magnitude x, ← ofMagnitude_negative_magnitude y, h.sign, h'.sign,
    h.nearest.unique h'.nearest]

theorem isRounded_nearest (negative : Bool) (num : Nat) {den : Nat} (hden : 0 < den) :
    IsRounded negative (num / den / unit) (nearest negative num den) := by
  have hnearest : IsNearest (num / den / unit) (roundMagnitude num den) :=
    isNearest_roundMagnitude hden
  have hlt : roundMagnitude num den < signBit := by
    apply Nat.lt_of_le_of_lt hnearest.le
    decide
  refine ⟨negative_ofMagnitude negative hlt, ?_⟩
  rwa [nearest, magnitude_ofMagnitude negative hlt]

theorem isRounded_ofScientific (negative : Bool) (coefficient : Nat) (exponent : Int) :
    IsRounded negative (coefficient * 10 ^ exponent)
      (ofScientific negative coefficient exponent) := by
  have hunit : (unit : ℚ) ≠ 0 := Nat.cast_ne_zero.2 (Nat.ne_of_gt unit_pos)
  unfold ofScientific
  split
  · rename_i hexponent
    obtain ⟨e, rfl⟩ := Int.eq_ofNat_of_zero_le hexponent
    have h := isRounded_nearest negative (coefficient * Nat.pow 10 e * unit) Nat.one_pos
    have hvalue : ((coefficient * Nat.pow 10 e * unit : Nat) / (1 : Nat) / unit : ℚ) =
        coefficient * 10 ^ (e : Int) := by
      rw [Nat.cast_one, div_one, Nat.cast_mul, mul_div_cancel_right₀ _ hunit, Nat.pow_eq]
      push_cast
      rfl
    rw [hvalue] at h
    exact h
  · rename_i hexponent
    obtain ⟨e, rfl⟩ : ∃ e : Nat, exponent = -e := ⟨(-exponent).toNat, by omega⟩
    have hpow : 0 < Nat.pow 10 e := Nat.pow_pos (by decide)
    have h := isRounded_nearest negative (coefficient * unit) hpow
    have hvalue : ((coefficient * unit : Nat) / Nat.pow 10 e / unit : ℚ) =
        coefficient * 10 ^ (-e : Int) := by
      rw [Nat.cast_mul, div_right_comm, mul_div_cancel_right₀ _ hunit, Nat.pow_eq, zpow_neg,
        zpow_natCast, div_eq_mul_inv]
      push_cast
      rfl
    rw [hvalue] at h
    rw [neg_neg, Int.toNat_natCast]
    exact h

end Binary64

namespace Template

open Binary64

/-- What is written for a finite number denotes a sign and a number that are rounded to it, and to no
other; so does every decimal of that value that is read. It has an exponent below `10^-4`, unless it
is zero, and from `10^16`. Hence different numbers have different literals. -/
theorem floatLiteral_faithful {x : Binary64} (hx : x.isFinite = true) :
    (∃ negative q, DenotesSigned (floatLiteral x) negative q ∧
      (∀ y, IsRounded negative q y ↔ y = x) ∧
      (∀ (coefficient : Nat) (exponent : Int), coefficient * 10 ^ exponent = q →
        ofScientific negative coefficient exponent = x) ∧
      ('e' ∈ (floatLiteral x).toList ↔ q ≠ 0 ∧ (q < 1 / 10 ^ 4 ∨ 10 ^ 16 ≤ q))) ∧
    ∀ y, y.isFinite = true → floatLiteral y = floatLiteral x → y = x := by
  have hwritten {y : Binary64} (hy : y.isFinite = true) :
      DenotesSigned (floatLiteral y) y.negative (writtenValue y.magnitude) :=
    ⟨_, denotes_magnitudeText .literal y.magnitude,
      floatLiteral_eq y ▸ toList_text hy .literal⟩
  have hrounded {y : Binary64} (hy : y.isFinite = true) :
      IsRounded y.negative (writtenValue y.magnitude) y :=
    ⟨rfl, isNearest_writtenValue (of_decide_eq_true hy)⟩
  refine ⟨⟨_, _, hwritten hx, fun y => ?_, fun coefficient exponent hvalue => ?_, ?_⟩,
    fun y hy htext => ?_⟩
  · constructor
    · intro hy
      exact hy.unique (hrounded hx)
    · rintro rfl
      exact hrounded hx
  · have hread := isRounded_ofScientific x.negative coefficient exponent
    rw [hvalue] at hread
    exact hread.unique (hrounded hx)
  · rw [← mem_magnitudeText_iff, floatLiteral_eq, toList_text hx]
    split
    · simp
    · rfl
  · obtain ⟨hsign, hvalue⟩ := (hwritten hy).unique (htext ▸ hwritten hx)
    have hy := hrounded hy
    rw [hsign, hvalue] at hy
    exact hy.unique (hrounded hx)

/-- The zeros keep their signs. -/
theorem floatLiteral_faithful_zero :
    (zero true).isFinite = true ∧ floatLiteral (zero true) = "-0.0" ∧
      (∃ negative q, DenotesSigned "-0.0" negative q ∧
        ∀ y, IsRounded negative q y ↔ y = zero true) ∧
      ∀ y, y.isFinite = true → floatLiteral y = "-0.0" → y = zero true := by
  have hfinite : (zero true).isFinite = true := by decide
  have htext : floatLiteral (zero true) = "-0.0" := by decide
  obtain ⟨⟨negative, q, hdenotes, hrounded, -⟩, hother⟩ := floatLiteral_faithful hfinite
  rw [htext] at hdenotes hother
  exact ⟨hfinite, htext, ⟨negative, q, hdenotes, hrounded⟩, hother⟩

end Template

end TensorShader
