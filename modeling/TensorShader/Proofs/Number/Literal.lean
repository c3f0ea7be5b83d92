import TensorShader.Number.Text

/-! The characters of written numbers. A number may be a literal in shader source, or not if it has
no finite value, but it never holds a character that ends a statement or calls a function. -/

namespace TensorShader

/-- Whether a character occurs in written numbers: a digit, a sign, a point, the letter of an
exponent, or a letter of the values that are not finite. -/
def isLiteralChar (c : Char) : Bool :=
  c.isDigit || c ∈ ['.', '-', 'e', 'N', 'a', 'i', 'n', 'f']

theorem isLiteralChar_of_isDigit {c : Char} (h : c.isDigit = true) : isLiteralChar c = true := by
  simp [isLiteralChar, h]

theorem isLiteralChar_of_mem_toString {n : Nat} {c : Char} (hc : c ∈ (toString n).toList) :
    isLiteralChar c = true := by
  have hlist : (toString n).toList = Nat.toDigits 10 n := Nat.toList_repr
  rw [hlist] at hc
  exact isLiteralChar_of_isDigit (Nat.isDigit_of_mem_toDigits (by decide) (by decide) hc)

theorem isLiteralChar_of_mem_int {i : Int} {c : Char} (hc : c ∈ (toString i).toList) :
    isLiteralChar c = true := by
  cases i with
  | ofNat n => exact isLiteralChar_of_mem_toString hc
  | negSucc n =>
    have htext : (toString (Int.negSucc n)).toList = '-' :: (toString (n + 1)).toList := by
      have h : toString (Int.negSucc n) = "-" ++ toString (n + 1) := rfl
      rw [h, String.toList_append]
      rfl
    rw [htext] at hc
    rcases List.mem_cons.1 hc with rfl | hc
    · decide
    · exact isLiteralChar_of_mem_toString hc

namespace Decimal

variable {d : Decimal} {c : Char}

theorem isLiteralChar_of_mem_positional (hd : ∀ c ∈ d.digits, isLiteralChar c = true)
    (hc : c ∈ d.positional) : isLiteralChar c = true := by
  have hzero : isLiteralChar '0' = true := by decide
  have hpoint : isLiteralChar '.' = true := by decide
  unfold positional at hc
  split at hc
  · rcases List.mem_append.1 hc with hc | hc
    · simp only [List.mem_cons, List.mem_replicate] at hc
      rcases hc with rfl | rfl | ⟨-, rfl⟩
      · exact hzero
      · exact hpoint
      · exact hzero
    · exact hd c hc
  · simp only at hc
    split at hc
    · rcases List.mem_append.1 hc with hc | hc
      · exact hd c (List.mem_of_mem_take hc)
      · rcases List.mem_cons.1 hc with rfl | hc
        · exact hpoint
        · exact hd c (List.mem_of_mem_drop hc)
    · simp only [List.mem_append, List.mem_replicate, List.mem_cons, List.not_mem_nil,
        or_false] at hc
      rcases hc with (hc | ⟨-, rfl⟩) | rfl | rfl
      · exact hd c hc
      · exact hzero
      · exact hpoint
      · exact hzero

theorem isLiteralChar_of_mem_scientific (hd : ∀ c ∈ d.digits, isLiteralChar c = true)
    (hc : c ∈ d.scientific) : isLiteralChar c = true := by
  unfold scientific at hc
  simp only at hc
  rcases List.mem_append.1 hc with hc | hc
  · split at hc
    · rename_i first second rest heq
      rw [heq] at hd
      rcases List.mem_cons.1 hc with rfl | hc
      · exact hd _ List.mem_cons_self
      · rcases List.mem_cons.1 hc with rfl | hc
        · decide
        · exact hd c (List.mem_cons_of_mem first hc)
    · exact hd c hc
  · rcases List.mem_cons.1 hc with rfl | hc
    · decide
    · exact isLiteralChar_of_mem_int hc

end Decimal

namespace Binary64

theorem isDigit_of_mem_shortest {m : Nat} {c : Char} (hc : c ∈ (shortest m).digits) :
    c.isDigit = true := by
  have hmem : c ∈ Nat.toDigits 10 (shortestScaled m) := by
    have hsuffix := List.dropWhile_suffix (l := (Nat.toDigits 10 (shortestScaled m)).reverse)
      fun d => d == '0'
    exact List.mem_reverse.1 (hsuffix.subset (List.mem_reverse.1 hc))
  exact Nat.isDigit_of_mem_toDigits (by decide) (by decide) hmem

theorem isLiteralChar_of_mem_shortest {m : Nat} {c : Char} (hc : c ∈ (shortest m).digits) :
    isLiteralChar c = true := isLiteralChar_of_isDigit (isDigit_of_mem_shortest hc)

theorem isLiteralChar_of_mem_text {x : Binary64} {style : NumberStyle} {c : Char}
    (hc : c ∈ (x.text style).toList) : isLiteralChar c = true := by
  have hzero : ['0', '.', '0'].all isLiteralChar = true := by decide
  have hinf : "inf".toList.all isLiteralChar = true := by decide
  have hnan : "NaN".toList.all isLiteralChar = true := by decide
  have hsign : "-".toList.all isLiteralChar = true := by decide
  have hmagnitude (m : Nat) : ∀ c ∈ magnitudeText style m, isLiteralChar c = true := by
    intro c hc
    unfold magnitudeText at hc
    split at hc
    · exact List.all_eq_true.1 hzero c hc
    · unfold Decimal.text at hc
      split at hc
      · exact Decimal.isLiteralChar_of_mem_positional
          (fun _ => isLiteralChar_of_mem_shortest) hc
      · exact Decimal.isLiteralChar_of_mem_scientific
          (fun _ => isLiteralChar_of_mem_shortest) hc
  have hdigits : ∀ c ∈ (if x.isInfinite then "inf"
      else String.ofList (magnitudeText style x.magnitude)).toList, isLiteralChar c = true := by
    split
    · exact List.all_eq_true.1 hinf
    · rw [String.toList_ofList]
      exact hmagnitude _
  unfold text at hc
  split at hc
  · exact List.all_eq_true.1 hnan c hc
  · simp only at hc
    split at hc
    · rw [String.toList_append] at hc
      rcases List.mem_append.1 hc with hc | hc
      · exact List.all_eq_true.1 hsign c hc
      · exact hdigits c hc
    · exact hdigits c hc

end Binary64

end TensorShader
