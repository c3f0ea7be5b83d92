import TensorShader.Proofs.Number.Literal
import TensorShader.Text.Digits
import Mathlib.Algebra.Field.Rat
import Mathlib.Data.List.TakeWhile
import Mathlib.Tactic.NormNum
import Mathlib.Tactic.Ring

/-! The decimals that texts denote. A text has a point between digits, or an exponent of ten behind
a digit or a digit with a fraction; it denotes one number only, and what is written for a decimal
denotes its value. -/

namespace TensorShader

/-- The value of digits, of which those of the fraction stand behind a point, times a power of
ten. -/
def decimalValue (whole fraction : List Char) (exponent : Int) : ℚ :=
  Nat.ofDigitChars 10 (whole ++ fraction) 0 * 10 ^ (exponent - fraction.length)

/-- Digits denote an integer, and with a minus sign its opposite. -/
inductive DenotesInt : List Char → Int → Prop
  | nonneg {ds : List Char} : isDigits ds = true → DenotesInt ds (Nat.ofDigitChars 10 ds 0)
  | neg {ds : List Char} : isDigits ds = true →
      DenotesInt ('-' :: ds) (-(Nat.ofDigitChars 10 ds 0 : Int))

/-- The numbers that texts without a sign denote: `digits.digits`, or `d` or `d.digits` with an
exponent. -/
inductive Denotes : List Char → ℚ → Prop
  | point {whole fraction : List Char} : isDigits whole = true → isDigits fraction = true →
      Denotes (whole ++ '.' :: fraction) (decimalValue whole fraction 0)
  | digit {d : Char} {e : List Char} {exponent : Int} : d.isDigit = true → DenotesInt e exponent →
      Denotes (d :: 'e' :: e) (decimalValue [d] [] exponent)
  | fraction {d : Char} {fraction e : List Char} {exponent : Int} : d.isDigit = true →
      isDigits fraction = true → DenotesInt e exponent →
      Denotes (d :: '.' :: (fraction ++ 'e' :: e)) (decimalValue [d] fraction exponent)

theorem isDigits_iff {cs : List Char} :
    isDigits cs = true ↔ cs ≠ [] ∧ ∀ c ∈ cs, c.isDigit = true := by
  simp [isDigits]

section Reading

def readInt : List Char → Int
  | '-' :: ds => -(Nat.ofDigitChars 10 ds 0 : Int)
  | ds => Nat.ofDigitChars 10 ds 0

/-- What a text denotes, found from its first `e` and the first point before that. -/
def readDecimal (cs : List Char) : ℚ :=
  let mantissa := cs.takeWhile (· != 'e')
  decimalValue (mantissa.takeWhile (· != '.')) (mantissa.dropWhile (· != '.')).tail
    (readInt (cs.dropWhile (· != 'e')).tail)

theorem DenotesInt.read {cs : List Char} {i : Int} (h : DenotesInt cs i) : readInt cs = i := by
  cases h with
  | nonneg h =>
    obtain ⟨-, hall⟩ := isDigits_iff.1 h
    unfold readInt
    split
    · have hminus := hall '-' List.mem_cons_self
      exact absurd hminus (by decide)
    · rfl
  | neg h => rfl

theorem notMem_of_isDigit {ds : List Char} {c : Char} (h : ∀ d ∈ ds, d.isDigit = true)
    (hc : c.isDigit = false) : c ∉ ds := by
  intro hmem
  rw [h c hmem] at hc
  cases hc

theorem bne_of_notMem {cs : List Char} {c : Char} (h : c ∉ cs) : ∀ d ∈ cs, (d != c) = true := by
  intro d hd
  rw [bne_iff_ne]
  rintro rfl
  exact h hd

theorem takeWhile_dropWhile_cut {cs : List Char} {c : Char} (h : c ∉ cs) (rest : List Char) :
    (cs ++ c :: rest).takeWhile (· != c) = cs ∧
      (cs ++ c :: rest).dropWhile (· != c) = c :: rest := by
  constructor
  · rw [List.takeWhile_append_of_pos (bne_of_notMem h), List.takeWhile_cons_of_neg (by simp),
      List.append_nil]
  · rw [List.dropWhile_append_of_pos (bne_of_notMem h), List.dropWhile_cons_of_neg (by simp)]

theorem takeWhile_dropWhile_self {cs : List Char} {c : Char} (h : c ∉ cs) :
    cs.takeWhile (· != c) = cs ∧ cs.dropWhile (· != c) = [] :=
  ⟨List.takeWhile_eq_self_iff.2 (bne_of_notMem h), List.dropWhile_eq_nil_iff.2 (bne_of_notMem h)⟩

theorem Denotes.read {cs : List Char} {q : ℚ} (h : Denotes cs q) : readDecimal cs = q := by
  have hletter {ds : List Char} (hds : ∀ d ∈ ds, d.isDigit = true) : 'e' ∉ ds :=
    notMem_of_isDigit hds rfl
  have hpoint {ds : List Char} (hds : ∀ d ∈ ds, d.isDigit = true) : '.' ∉ ds :=
    notMem_of_isDigit hds rfl
  have hmantissa {ds ds' : List Char} (hds : ∀ d ∈ ds, d.isDigit = true)
      (hds' : ∀ d ∈ ds', d.isDigit = true) : 'e' ∉ ds ++ '.' :: ds' := by
    simp [hletter hds, hletter hds']
  cases h with
  | @point whole fraction hwhole hfraction =>
    obtain ⟨-, hwhole⟩ := isDigits_iff.1 hwhole
    obtain ⟨-, hfraction⟩ := isDigits_iff.1 hfraction
    obtain ⟨hbefore, hbehind⟩ := takeWhile_dropWhile_self (hmantissa hwhole hfraction)
    obtain ⟨htake, hdrop⟩ := takeWhile_dropWhile_cut (hpoint hwhole) fraction
    rw [readDecimal, hbefore, hbehind, htake, hdrop]
    rfl
  | @digit d e exponent hd he =>
    have hfirst : ∀ c ∈ [d], c.isDigit = true := by simpa using hd
    obtain ⟨hbefore, hbehind⟩ := takeWhile_dropWhile_cut (hletter hfirst) e
    obtain ⟨htake, hdrop⟩ := takeWhile_dropWhile_self (hpoint hfirst)
    show readDecimal ([d] ++ 'e' :: e) = _
    rw [readDecimal, hbefore, hbehind, htake, hdrop, List.tail_cons, he.read]
    rfl
  | @fraction d fraction e exponent hd hfraction he =>
    obtain ⟨-, hfraction⟩ := isDigits_iff.1 hfraction
    have hfirst : ∀ c ∈ [d], c.isDigit = true := by simpa using hd
    obtain ⟨hbefore, hbehind⟩ := takeWhile_dropWhile_cut (hmantissa hfirst hfraction) e
    obtain ⟨htake, hdrop⟩ := takeWhile_dropWhile_cut (hpoint hfirst) fraction
    show readDecimal (([d] ++ '.' :: fraction) ++ 'e' :: e) = _
    rw [readDecimal, hbefore, hbehind, htake, hdrop, List.tail_cons, List.tail_cons, he.read]

theorem Denotes.unique {cs : List Char} {q q' : ℚ} (h : Denotes cs q) (h' : Denotes cs q') :
    q = q' := h.read.symm.trans h'.read

end Reading

theorem denotesInt_toString (i : Int) : DenotesInt (toString i).toList i := by
  have hdigits (n : Nat) : isDigits (Nat.toDigits 10 n) = true :=
    isDigits_iff.2 ⟨Nat.toDigits_ne_nil, fun c hc =>
      Nat.isDigit_of_mem_toDigits (by decide) (by decide) hc⟩
  have hvalue (n : Nat) : Nat.ofDigitChars 10 (Nat.toDigits 10 n) 0 = n :=
    Nat.ofDigitChars_ten_toDigits
  cases i with
  | ofNat n =>
    have hlist : (toString (Int.ofNat n)).toList = Nat.toDigits 10 n := Nat.toList_repr
    have h := DenotesInt.nonneg (hdigits n)
    rw [hvalue] at h
    rwa [hlist]
  | negSucc n =>
    have htext : toString (Int.negSucc n) = "-" ++ toString (n + 1) := rfl
    have hlist : (toString (n + 1)).toList = Nat.toDigits 10 (n + 1) := Nat.toList_repr
    have h := DenotesInt.neg (hdigits (n + 1))
    rw [hvalue] at h
    rw [htext, String.toList_append, hlist]
    exact h

/-- Zeros before the digits of a number leave its value, and those behind multiply it. -/
theorem decimalValue_of_zeros {whole fraction ds : List Char} {k j : Nat} (exponent : Int)
    (h : whole ++ fraction = List.replicate k '0' ++ ds ++ List.replicate j '0') :
    decimalValue whole fraction exponent =
      Nat.ofDigitChars 10 ds 0 * 10 ^ (j + exponent - fraction.length) := by
  have hdigits : Nat.ofDigitChars 10 (whole ++ fraction) 0 = 10 ^ j * Nat.ofDigitChars 10 ds 0 := by
    rw [h, Nat.ofDigitChars_append, Nat.ofDigitChars_append, Nat.ofDigitChars_replicate_zero,
      Nat.ofDigitChars_replicate_zero, Nat.mul_zero]
  have hten : (10 : ℚ) ≠ 0 := by norm_num
  rw [decimalValue, hdigits, Int.add_sub_assoc, zpow_add₀ hten, zpow_natCast]
  push_cast
  ring

namespace Decimal

/-- The value of a decimal: its digits stand behind a point that is moved to `point`. -/
def value (d : Decimal) : ℚ :=
  Nat.ofDigitChars 10 d.digits 0 * 10 ^ (d.point - d.digits.length)

variable {d : Decimal}

/-- Digits with a point, and zeros around those of a decimal, denote its value if the point keeps
its place. -/
theorem denotes_of_zeros {whole fraction : List Char} {k j : Nat} (hwhole : isDigits whole = true)
    (hfraction : isDigits fraction = true)
    (hsplit : whole ++ fraction = List.replicate k '0' ++ d.digits ++ List.replicate j '0')
    (hplace : (j : Int) - fraction.length = d.point - d.digits.length) :
    Denotes (whole ++ '.' :: fraction) d.value := by
  have h := Denotes.point hwhole hfraction
  rwa [decimalValue_of_zeros 0 hsplit, Int.add_zero, hplace] at h

theorem denotes_positional (hd : isDigits d.digits = true) : Denotes d.positional d.value := by
  obtain ⟨hne, hall⟩ := isDigits_iff.1 hd
  have hzeros (n : Nat) : ∀ c ∈ List.replicate n '0', c.isDigit = true := by
    intro c hc
    rw [List.eq_of_mem_replicate hc]
    decide
  unfold positional
  split
  · rename_i hpoint
    have hdigits : isDigits (List.replicate (-d.point).toNat '0' ++ d.digits) = true := by
      refine isDigits_iff.2 ⟨by simp [hne], fun c hc => ?_⟩
      exact (List.mem_append.1 hc).elim (hzeros _ c) (hall c)
    show Denotes (['0'] ++ '.' :: (List.replicate (-d.point).toNat '0' ++ d.digits)) d.value
    apply denotes_of_zeros (k := (-d.point).toNat + 1) (j := 0) rfl hdigits
    · rw [List.replicate_succ, List.replicate_zero, List.append_nil]
      rfl
    · simp only [List.length_append, List.length_replicate]
      omega
  · rename_i hpoint
    simp only
    have hwhole : d.point.toNat ≠ 0 := by omega
    split
    · rename_i hinside
      apply denotes_of_zeros (k := 0) (j := 0)
      · refine isDigits_iff.2 ⟨?_, fun c hc => hall c (List.mem_of_mem_take hc)⟩
        simp [List.take_eq_nil_iff, hwhole, hne]
      · refine isDigits_iff.2 ⟨?_, fun c hc => hall c (List.mem_of_mem_drop hc)⟩
        simpa [List.drop_eq_nil_iff] using hinside
      · simp
      · simp only [List.length_drop]
        omega
    · rename_i hbehind
      have hdigits : isDigits (d.digits ++
          List.replicate (d.point.toNat - d.digits.length) '0') = true := by
        refine isDigits_iff.2 ⟨by simp [hne], fun c hc => ?_⟩
        exact (List.mem_append.1 hc).elim (hall c) (hzeros _ c)
      have hfraction : isDigits ['0'] = true := by decide
      apply denotes_of_zeros (k := 0) (j := d.point.toNat - d.digits.length + 1) hdigits hfraction
      · simp [List.replicate_succ']
      · simp only [List.length_singleton]
        omega

theorem denotes_scientific (hd : isDigits d.digits = true) : Denotes d.scientific d.value := by
  obtain ⟨hne, hall⟩ := isDigits_iff.1 hd
  obtain ⟨first, rest, hdigits⟩ := List.exists_cons_of_ne_nil hne
  have hexponent := denotesInt_toString (d.point - 1)
  have hvalue : decimalValue [first] rest (d.point - 1) = d.value := by
    have hsplit : [first] ++ rest = List.replicate 0 '0' ++ d.digits ++ List.replicate 0 '0' := by
      simp [hdigits]
    rw [decimalValue_of_zeros (d.point - 1) hsplit, value, hdigits, List.length_cons]
    congr 2
    omega
  have hfirst : first.isDigit = true := hall first (hdigits ▸ List.mem_cons_self)
  rw [← hvalue]
  unfold scientific
  cases rest with
  | nil =>
    rw [hdigits]
    exact .digit hfirst hexponent
  | cons second rest =>
    have hrest : isDigits (second :: rest) = true :=
      isDigits_iff.2 ⟨List.cons_ne_nil _ _, fun c hc =>
        hall c (hdigits ▸ List.mem_cons_of_mem first hc)⟩
    rw [hdigits]
    exact .fraction hfirst hrest hexponent

/-- Only an exponent has the letter `e`. -/
theorem mem_text_iff (hd : ∀ c ∈ d.digits, c.isDigit = true) (style : NumberStyle) :
    'e' ∈ d.text style ↔ style.isPositional (d.point - 1) = false := by
  have hnot : 'e' ∉ d.digits := notMem_of_isDigit hd rfl
  unfold text
  split
  · rename_i hpositional
    have htext : 'e' ∉ d.positional := by
      unfold positional
      split
      · simp [hnot]
      · simp only
        split
        · have htake : 'e' ∉ d.digits.take d.point.toNat := mt List.mem_of_mem_take hnot
          have hdrop : 'e' ∉ d.digits.drop d.point.toNat := mt List.mem_of_mem_drop hnot
          simp [htake, hdrop]
        · simp [hnot]
    simp [hpositional, htext]
  · rename_i hscientific
    simp [hscientific, scientific]

theorem denotes_text (hd : isDigits d.digits = true) (style : NumberStyle) :
    Denotes (d.text style) d.value := by
  unfold text
  split
  · exact denotes_positional hd
  · exact denotes_scientific hd

end Decimal

end TensorShader
