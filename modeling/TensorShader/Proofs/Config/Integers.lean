import TensorShader.Config.Read
import TensorShader.Proofs.Number.Decimal
import Mathlib.Data.List.Induction

/-! The integers of settings: which plain scalars write a 32-bit number. A number in base ten is
written by its digits, so without a zero in front; in another base, zeros may stand in front. -/

namespace TensorShader

/-- The letters that stand for the bases of integers, behind a zero. -/
def baseMarks : List (Char × Nat) := [('x', 16), ('o', 8), ('b', 2)]

/-- Characters write a natural number: its digits in base ten, or digits of a marked base. -/
inductive WritesNat : List Char → Nat → Prop
  | decimal (n : Nat) : WritesNat (Nat.toDigits 10 n) n
  | marked {mark : Char} {base : Nat} {ds : List Char} : (mark, base) ∈ baseMarks → ds ≠ [] →
      (∀ d ∈ ds, isDigitIn base d = true) → WritesNat ('0' :: mark :: ds) (digitsValue base ds)

/-- A scalar without quotes writes a number, perhaps behind a plus sign. -/
def Yaml.Scalar.WritesInteger (s : Yaml.Scalar) (n : Nat) : Prop :=
  s.plain = true ∧ (WritesNat s.text.toList n ∨
    ∃ cs, s.text.toList = '+' :: cs ∧ WritesNat cs n)

theorem digitsValue_concat (base : Nat) (ds : List Char) (d : Char) :
    digitsValue base (ds ++ [d]) = digitsValue base ds * base + digitValue d := by
  rw [digitsValue, List.foldl_append]
  rfl

theorem digitValue_of_isDigit {d : Char} (h : d.isDigit = true) :
    digitValue d < 10 ∧ Nat.digitChar (digitValue d) = d := by
  have hrange : 48 ≤ d.toNat ∧ d.toNat ≤ 57 := Char.isDigit_iff_toNat.1 h
  have hvalue : digitValue d = d.toNat - 48 := by rw [digitValue, if_pos h]; rfl
  have hlt : d.toNat - 48 < 10 := by omega
  rw [hvalue]
  refine ⟨hlt, Char.toNat_inj.1 ?_⟩
  rw [Nat.toNat_digitChar_of_lt_ten hlt]
  omega

theorem isCanonical_iff {ds : List Char} :
    isCanonical ds = true ↔
      ds ≠ [] ∧ (∀ d ∈ ds, d.isDigit = true) ∧ (ds.length = 1 ∨ ds.head? ≠ some '0') := by
  simp [isCanonical, isDigits_iff, and_assoc]

/-- Digits without a superfluous zero in front are those of the number that they write. -/
theorem toDigits_digitsValue {ds : List Char} (h : isCanonical ds = true) :
    Nat.toDigits 10 (digitsValue 10 ds) = ds := by
  induction ds using List.reverseRecOn with
  | nil => cases h
  | append_singleton ds d ih =>
    obtain ⟨-, hall, hhead⟩ := isCanonical_iff.1 h
    obtain ⟨hfirst, hlast⟩ := List.forall_mem_append.1 hall
    obtain ⟨hlt, hchar⟩ := digitValue_of_isDigit (hlast d List.mem_cons_self)
    have hd : Nat.toDigits 10 (digitValue d) = [d] := by rw [Nat.toDigits_of_lt_base hlt, hchar]
    rw [digitsValue_concat]
    cases ds with
    | nil => rwa [digitsValue, List.foldl_nil, Nat.zero_mul, Nat.zero_add]
    | cons c cs =>
      have hc : c ≠ '0' := by simpa using hhead
      have hds := ih (isCanonical_iff.2 ⟨by simp, hfirst, .inr (by simpa using hc)⟩)
      -- a zero would have been the only digit
      have hpos : 0 < digitsValue 10 (c :: cs) := by
        rw [Nat.pos_iff_ne_zero]
        intro hzero
        rw [hzero] at hds
        exact hc (List.cons.inj hds).1.symm
      rw [Nat.mul_comm, ← Nat.toDigits_append_toDigits (by decide) hpos hlt, hds, hd]

theorem eq_zero_of_head?_toDigits {n : Nat} (h : (Nat.toDigits 10 n).head? = some '0') : n = 0 := by
  induction n using Nat.strong_induction_on with
  | _ n ih =>
    by_cases hlt : n < 10
    · rw [Nat.toDigits_of_lt_base hlt] at h
      exact Nat.digitChar_eq_zero.1 (Option.some.inj h)
    · have hfront : (Nat.toDigits 10 (n / 10)).head? = some '0' := by
        rwa [Nat.toDigits_of_base_le (by decide) (by omega), List.head?_append,
          Option.or_of_isSome (by simp [Nat.toDigits_ne_nil])] at h
      have hzero := ih (n / 10) (by omega) hfront
      omega

theorem isDigit_of_mem_toDigits (n : Nat) {d : Char} (h : d ∈ Nat.toDigits 10 n) :
    d.isDigit = true :=
  Nat.isDigit_of_mem_toDigits (by decide) (by decide) h

theorem isCanonical_toDigits (n : Nat) : isCanonical (Nat.toDigits 10 n) = true := by
  refine isCanonical_iff.2 ⟨Nat.toDigits_ne_nil, fun _ => isDigit_of_mem_toDigits n, ?_⟩
  by_cases h : (Nat.toDigits 10 n).head? = some '0'
  · obtain rfl := eq_zero_of_head?_toDigits h
    exact .inl rfl
  · exact .inr h

theorem digitsValue_toDigits (n : Nat) : digitsValue 10 (Nat.toDigits 10 n) = n := by
  have hread := congrArg (Nat.ofDigitChars 10 · 0) (toDigits_digitsValue (isCanonical_toDigits n))
  simpa only [Nat.ofDigitChars_ten_toDigits] using hread

theorem inBase_eq_some_iff {base n : Nat} {ds : List Char} :
    unsigned?.inBase base ds = some n ↔
      ds ≠ [] ∧ (∀ d ∈ ds, isDigitIn base d = true) ∧ digitsValue base ds = n := by
  simp [unsigned?.inBase, and_assoc]

theorem WritesNat.of_inBase {mark : Char} {base n : Nat} {ds : List Char}
    (hmark : (mark, base) ∈ baseMarks) (h : unsigned?.inBase base ds = some n) :
    WritesNat ('0' :: mark :: ds) n := by
  obtain ⟨hne, hall, rfl⟩ := inBase_eq_some_iff.1 h
  exact .marked hmark hne hall

theorem unsigned?_marked {mark : Char} {base : Nat} {ds : List Char}
    (hmark : (mark, base) ∈ baseMarks) :
    unsigned? ('0' :: mark :: ds) = unsigned?.inBase base ds := by
  simp only [baseMarks, List.mem_cons, Prod.mk.injEq, List.not_mem_nil, or_false] at hmark
  rcases hmark with ⟨rfl, rfl⟩ | ⟨rfl, rfl⟩ | ⟨rfl, rfl⟩ <;> rfl

theorem unsigned?_toDigits (n : Nat) : unsigned? (Nat.toDigits 10 n) = some n := by
  have hmark {mark : Char} {ds : List Char} (h : Nat.toDigits 10 n = '0' :: mark :: ds) :
      mark.isDigit = true := by
    refine isDigit_of_mem_toDigits n ?_
    rw [h]
    simp
  unfold unsigned?
  split
  · exact absurd (hmark ‹_›) (by decide)
  · exact absurd (hmark ‹_›) (by decide)
  · exact absurd (hmark ‹_›) (by decide)
  · rw [if_pos (isCanonical_toDigits n), digitsValue_toDigits]

/-- The numbers that are read are those that are written. -/
theorem unsigned?_eq_some_iff {cs : List Char} {n : Nat} :
    unsigned? cs = some n ↔ WritesNat cs n := by
  constructor
  · intro h
    unfold unsigned? at h
    split at h
    · exact .of_inBase (by decide) h
    · exact .of_inBase (by decide) h
    · exact .of_inBase (by decide) h
    · split at h
      · rename_i hcanonical
        obtain rfl := Option.some.inj h
        have hwritten := WritesNat.decimal (digitsValue 10 cs)
        rwa [toDigits_digitsValue hcanonical] at hwritten
      · cases h
  · rintro (n | ⟨hmark, hne, hall⟩)
    · exact unsigned?_toDigits n
    · rw [unsigned?_marked hmark, inBase_eq_some_iff]
      exact ⟨hne, hall, rfl⟩

theorem not_writesNat_plus {cs : List Char} {n : Nat} : ¬WritesNat ('+' :: cs) n := by
  intro h
  generalize hds : '+' :: cs = ds at h
  cases h with
  | decimal => exact absurd (isDigit_of_mem_toDigits n (hds ▸ List.mem_cons_self)) (by decide)
  | marked => simp at hds

theorem ofNat_eq_some_iff {m : Nat} {n : UInt32} :
    (if m < wordBound then some (UInt32.ofNat m) else none) = some n ↔ m = n.toNat := by
  constructor
  · intro h
    split at h
    · obtain rfl := Option.some.inj h
      exact (UInt32.toNat_ofNat_of_lt ‹_›).symm
    · cases h
  · rintro rfl
    have hlt : n.toNat < wordBound := n.toNat_lt
    rw [if_pos hlt, UInt32.ofNat_toNat]

/-- The 32-bit number that is read from a scalar is the one that it writes. -/
theorem Yaml.Scalar.word?_eq_some_iff {s : Yaml.Scalar} {n : UInt32} :
    s.word? = some n ↔ s.WritesInteger n.toNat := by
  unfold Yaml.Scalar.word? Yaml.Scalar.WritesInteger
  split
  · rename_i hplain
    simp only [Option.bind_eq_some_iff, ofNat_eq_some_iff, exists_eq_right, unsigned?_eq_some_iff]
    rw [and_iff_right hplain]
    split
    · rename_i cs hcs
      rw [or_iff_right (fun h => not_writesNat_plus (hcs ▸ h)), hcs]
      simp
    · rename_i hcs
      exact (or_iff_left fun ⟨cs, h, _⟩ => hcs cs h).symm
  · rename_i hplain
    simp [hplain]

end TensorShader
