import TensorShader.Proofs.Number.Shortest

/-! Which numbers are written as literals of floating-point type: exactly the finite ones. Such a
literal has digits with a point between them or before an exponent, so that it is not one of an
integer. -/

namespace TensorShader

/-- Digits with a decimal point between them. -/
def HasPoint (cs : List Char) : Prop :=
  ∃ whole fraction, isDigits whole = true ∧ isDigits fraction = true ∧
    cs = whole ++ '.' :: fraction

/-- An exponent of ten. -/
def IsExponent (cs : List Char) : Prop :=
  ∃ ds, isDigits ds = true ∧ (cs = 'e' :: ds ∨ cs = 'e' :: '-' :: ds)

/-- A literal of floating-point type without a sign: it has a point, or an exponent, or both. -/
inductive IsMagnitude : List Char → Prop
  | point {cs : List Char} : HasPoint cs → IsMagnitude cs
  | exponent {cs e : List Char} : isDigits cs = true ∨ HasPoint cs → IsExponent e →
      IsMagnitude (cs ++ e)

/-- A literal of floating-point type, which may have a minus sign. -/
def IsFloatLiteral (s : String) : Prop :=
  ∃ cs, IsMagnitude cs ∧ (s.toList = cs ∨ s.toList = '-' :: cs)

theorem exists_digit_of_isDigits {cs : List Char} (h : isDigits cs = true) (rest : List Char) :
    ∃ c tail, cs ++ rest = c :: tail ∧ c.isDigit = true := by
  obtain ⟨hne, hall⟩ := isDigits_iff.1 h
  obtain ⟨c, tail, rfl⟩ := List.exists_cons_of_ne_nil hne
  exact ⟨c, tail ++ rest, rfl, hall c List.mem_cons_self⟩

/-- A literal without a sign starts with a digit. -/
theorem IsMagnitude.exists_digit {cs : List Char} (h : IsMagnitude cs) :
    ∃ c tail, cs = c :: tail ∧ c.isDigit = true := by
  cases h with
  | point h =>
    obtain ⟨whole, fraction, hwhole, -, rfl⟩ := h
    exact exists_digit_of_isDigits hwhole _
  | exponent h =>
    rcases h with hdigits | ⟨whole, fraction, hwhole, -, rfl⟩
    · exact exists_digit_of_isDigits hdigits _
    · rw [List.append_assoc]
      exact exists_digit_of_isDigits hwhole _

/-- A text whose first character is a letter is no literal, with or without a sign. -/
theorem not_isFloatLiteral {s : String} {c : Char} {tail : List Char} (hc : c.isDigit = false)
    (hsign : c ≠ '-') (h : s.toList = c :: tail ∨ s.toList = '-' :: c :: tail) :
    ¬IsFloatLiteral s := by
  rintro ⟨cs, hcs, hs⟩
  obtain ⟨d, rest, rfl, hd⟩ := hcs.exists_digit
  have hminus : ('-' : Char).isDigit = false := by decide
  rcases h with h | h <;> rcases hs with hs | hs <;> rw [h] at hs <;>
    simp only [List.cons.injEq] at hs
  · rw [hs.1, hd] at hc
    cases hc
  · exact hsign hs.1
  · rw [← hs.1, hminus] at hd
    cases hd
  · rw [hs.2.1, hd] at hc
    cases hc

theorem DenotesInt.isExponent {cs : List Char} {i : Int} (h : DenotesInt cs i) :
    IsExponent ('e' :: cs) := by
  cases h with
  | nonneg h => exact ⟨_, h, .inl rfl⟩
  | neg h => exact ⟨_, h, .inr rfl⟩

/-- A text that denotes a number is a literal of floating-point type. -/
theorem Denotes.isMagnitude {cs : List Char} {q : ℚ} (h : Denotes cs q) : IsMagnitude cs := by
  have hfirst {d : Char} (hd : d.isDigit = true) : isDigits [d] = true := by
    simpa [isDigits] using hd
  cases h with
  | point hwhole hfraction => exact .point ⟨_, _, hwhole, hfraction, rfl⟩
  | @digit d e _ hd he =>
    show IsMagnitude ([d] ++ 'e' :: e)
    exact .exponent (.inl (hfirst hd)) he.isExponent
  | @fraction d fraction e _ hd hfraction he =>
    have hpoint : HasPoint ([d] ++ '.' :: fraction) := ⟨_, _, hfirst hd, hfraction, rfl⟩
    exact .exponent (.inr hpoint) he.isExponent

namespace Binary64

/-- A number is written as a literal exactly if it is finite. -/
theorem isFloatLiteral_text_iff {x : Binary64} {style : NumberStyle} :
    IsFloatLiteral (x.text style) ↔ x.isFinite = true := by
  constructor
  · intro h
    rw [isFinite_iff]
    cases hnan : x.isNaN with
    | true =>
      have htext : (x.text style).toList = 'N' :: ['a', 'N'] := by simp [text, hnan]
      exact absurd h (not_isFloatLiteral (by decide) (by decide) (.inl htext))
    | false =>
      cases hinf : x.isInfinite with
      | true =>
        have htext : (x.text style).toList = 'i' :: ['n', 'f'] ∨
            (x.text style).toList = '-' :: 'i' :: ['n', 'f'] := by
          cases hsign : x.negative with
          | false => simp [text, hnan, hinf, hsign]
          | true => simp [text, hnan, hinf, hsign]
        exact absurd h (not_isFloatLiteral (by decide) (by decide) htext)
      | false => exact ⟨rfl, rfl⟩
  · intro hx
    refine ⟨_, (denotes_magnitudeText style x.magnitude).isMagnitude, ?_⟩
    rw [toList_text hx]
    split
    · exact .inr rfl
    · exact .inl rfl

end Binary64

end TensorShader
