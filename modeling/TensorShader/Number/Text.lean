import TensorShader.Number.Shortest

/-! How floating-point numbers are written, and how decimals are read. A number is written with the
fewest digits that identify it, either positionally, always with a decimal point, or with an
exponent of ten. -/

namespace TensorShader

/-- Where positional notation is used. -/
inductive NumberStyle where
  /-- From `10^-4` to below `10^16`: the form of literals in shader source. -/
  | literal
  /-- Everywhere: the form of numbers written into a text as they are. -/
  | positional
deriving DecidableEq, Repr

/-- Whether a number whose leading digit stands for `10^e` is written positionally. -/
def NumberStyle.isPositional (style : NumberStyle) (e : Int) : Bool :=
  match style with
  | .literal => decide (-4 ≤ e ∧ e < 16)
  | .positional => true

namespace Decimal

/-- The digits with a decimal point at its place, and zeros where digits are missing. -/
def positional (d : Decimal) : List Char :=
  if d.point ≤ 0 then '0' :: '.' :: List.replicate (-d.point).toNat '0' ++ d.digits
  else
    let whole := d.point.toNat
    if whole < d.digits.length then d.digits.take whole ++ '.' :: d.digits.drop whole
    else d.digits ++ List.replicate (whole - d.digits.length) '0' ++ ['.', '0']

/-- The digits with a decimal point after the first one, if others follow, and an exponent. -/
def scientific (d : Decimal) : List Char :=
  let mantissa :=
    match d.digits with
    | first :: second :: rest => first :: '.' :: second :: rest
    | ds => ds
  mantissa ++ 'e' :: (toString (d.point - 1)).toList

def text (d : Decimal) (style : NumberStyle) : List Char :=
  if style.isPositional (d.point - 1) then d.positional else d.scientific

theorem point_mem_positional (d : Decimal) : '.' ∈ d.positional := by
  unfold positional
  split
  · simp
  · simp only
    split
    · simp
    · simp

theorem exponent_mem_scientific (d : Decimal) : 'e' ∈ d.scientific :=
  List.mem_append_right _ List.mem_cons_self

end Decimal

namespace Binary64

def magnitudeText (style : NumberStyle) (m : Nat) : List Char :=
  if m = 0 then ['0', '.', '0'] else (shortest m).text style

/-- The text of a number: its sign and digits, or the name of a value that is not finite. -/
def text (x : Binary64) (style : NumberStyle) : String :=
  if x.isNaN then "NaN"
  else
    let digits := if x.isInfinite then "inf" else .ofList (magnitudeText style x.magnitude)
    if x.negative then "-" ++ digits else digits

/-- The number nearest to `coefficient · 10^exponent`. -/
def ofScientific (negative : Bool) (coefficient : Nat) (exponent : Int) : Binary64 :=
  if 0 ≤ exponent then nearest negative (coefficient * Nat.pow 10 exponent.toNat * unit) 1
  else nearest negative (coefficient * unit) (Nat.pow 10 (-exponent).toNat)

/-- A finite number is written with its sign and the digits of its magnitude. -/
theorem toList_text {x : Binary64} (hx : x.isFinite = true) (style : NumberStyle) :
    (x.text style).toList =
      if x.negative then '-' :: magnitudeText style x.magnitude
      else magnitudeText style x.magnitude := by
  obtain ⟨hnan, hinf⟩ := isFinite_iff.1 hx
  unfold text
  simp only [hnan, hinf, Bool.false_eq_true, if_false]
  split
  · rw [String.toList_append]
    exact congrArg ('-' :: ·) String.toList_ofList
  · exact String.toList_ofList

/-- The digits of a magnitude have a decimal point or an exponent. -/
theorem mem_magnitudeText (style : NumberStyle) (m : Nat) :
    '.' ∈ magnitudeText style m ∨ 'e' ∈ magnitudeText style m := by
  unfold magnitudeText
  split
  · exact .inl (by decide)
  · unfold Decimal.text
    split
    · exact .inl (shortest m).point_mem_positional
    · exact .inr (shortest m).exponent_mem_scientific

end Binary64

end TensorShader
