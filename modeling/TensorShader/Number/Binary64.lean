/-! Floating-point numbers of 64 bits, with exact arithmetic on natural numbers. Every finite number
is a whole multiple of the least positive one, `2^-1074`: the multiplier is its number of units.
The bits below the sign, read as a natural number, are its magnitude, and magnitudes are ordered as
the values are. Rounding is to the nearest number, and from a midpoint to the even magnitude. -/

namespace TensorShader

/-- A floating-point number, given by its bits. Numbers are equal when their bits are, so the
zeros differ, and so do the not-a-numbers. -/
structure Binary64 where
  bits : UInt64
deriving DecidableEq, Repr

namespace Binary64

/-- The units in 1: `2^1074`. -/
def unit : Nat := 1 <<< 1074

/-- The value of the sign bit: `2^63`. -/
def signBit : Nat := 9223372036854775808

/-- The number of magnitudes between two powers of two: `2^52`. -/
def binade : Nat := 4503599627370496

/-- The magnitude of infinity. Above it are the magnitudes of the not-a-numbers. -/
def infinityMagnitude : Nat := 2047 * binade

/-- Whether the sign bit is set. -/
def negative (x : Binary64) : Bool := decide (signBit ≤ x.bits.toNat)

/-- The bits below the sign bit. -/
def magnitude (x : Binary64) : Nat := x.bits.toNat % signBit

def isNaN (x : Binary64) : Bool := decide (infinityMagnitude < x.magnitude)

def isInfinite (x : Binary64) : Bool := decide (x.magnitude = infinityMagnitude)

def isFinite (x : Binary64) : Bool := decide (x.magnitude < infinityMagnitude)

/-- The units of a magnitude. In the first binade they are the magnitude itself. Above, the last 52
bits follow a leading 1, and the bits before them say how often the result is doubled. -/
def unitsOf (m : Nat) : Nat :=
  if m < binade then m else (binade + m % binade) <<< (m / binade - 1)

/-- The units of a finite number, without its sign. -/
def units (x : Binary64) : Nat := unitsOf x.magnitude

/-- The units of a finite number, with its sign. -/
def signedUnits (x : Binary64) : Int := if x.negative then -(x.units : Int) else x.units

def ofMagnitude (negative : Bool) (m : Nat) : Binary64 :=
  ⟨.ofNat (if negative then signBit + m else m)⟩

/-- The not-a-number that an operation without a result gives. Its sign bit is set. -/
def nan : Binary64 := ofMagnitude true (infinityMagnitude + binade / 2)

def infinity (negative : Bool) : Binary64 := ofMagnitude negative infinityMagnitude

def zero (negative : Bool) : Binary64 := ofMagnitude negative 0

/-- A quotient rounded to the nearest natural number, and from a midpoint to the even one. -/
def roundDiv (num den : Nat) : Nat :=
  let q := num / den
  let r := num % den
  if 2 * r < den then q else if den < 2 * r then q + 1 else q + q % 2

/-- The magnitude nearest to `num / den` units. -/
def roundMagnitude (num den : Nat) : Nat :=
  let doublings := (num / den).log2 - 52
  min infinityMagnitude (doublings * binade + roundDiv num (den <<< doublings))

/-- The number nearest to `num / den` units, with the given sign. -/
def nearest (negative : Bool) (num den : Nat) : Binary64 :=
  ofMagnitude negative (roundMagnitude num den)

/-- The number nearest to an integer number of units; `zeroSign` is the sign of a zero. -/
def ofUnits (units : Int) (zeroSign : Bool) : Binary64 :=
  nearest (if units = 0 then zeroSign else decide (units < 0)) units.natAbs 1

def ofInt (i : Int) : Binary64 := nearest (decide (i < 0)) (i.natAbs * unit) 1

def neg (x : Binary64) : Binary64 := ofMagnitude (!x.negative) x.magnitude

/-- An operation whose result is the first not-a-number among its operands, if there is one. -/
def propagating (f : Binary64 → Binary64 → Binary64) (x y : Binary64) : Binary64 :=
  if x.isNaN then x else if y.isNaN then y else f x y

/-- The sum of numbers, rounded. A sum of zero is negative only if both terms are. -/
def sum (x y : Binary64) : Binary64 :=
  if x.isInfinite then
    if y.isInfinite && x.negative != y.negative then nan else x
  else if y.isInfinite then y
  else ofUnits (x.signedUnits + y.signedUnits) (x.negative && y.negative)

/-- The sum, rounded. -/
def add : Binary64 → Binary64 → Binary64 := propagating sum

/-- The difference, rounded. -/
def sub : Binary64 → Binary64 → Binary64 := propagating fun x y => sum x y.neg

/-- The product, rounded. -/
def mul : Binary64 → Binary64 → Binary64 := propagating fun x y =>
  let negative := x.negative != y.negative
  if x.isInfinite || y.isInfinite then
    if x.magnitude = 0 ∨ y.magnitude = 0 then nan else infinity negative
  else nearest negative (x.units * y.units) unit

/-- The quotient, rounded. -/
def div : Binary64 → Binary64 → Binary64 := propagating fun x y =>
  let negative := x.negative != y.negative
  if x.isInfinite then
    if y.isInfinite then nan else infinity negative
  else if y.isInfinite then zero negative
  else if y.magnitude = 0 then
    if x.magnitude = 0 then nan else infinity negative
  else nearest negative (x.units * unit) y.units

/-- The remainder of a division whose quotient is cut to an integer; it has the sign of `x`. -/
def rem : Binary64 → Binary64 → Binary64 := propagating fun x y =>
  if x.isInfinite || decide (y.magnitude = 0) then nan
  else if y.isInfinite then x
  else nearest x.negative (x.units % y.units) 1

/-- The integer part, with the sign kept. -/
def trunc (x : Binary64) : Binary64 :=
  if x.isFinite then nearest x.negative (x.units / unit * unit) 1 else x

def isBelowZero (x : Binary64) : Bool := !x.isNaN && x.negative && decide (x.magnitude ≠ 0)

def ediv (x y : Binary64) : Binary64 :=
  let q := (x.div y).trunc
  if (x.rem y).isBelowZero then
    if y.isBelowZero then q.add (ofInt 1) else q.sub (ofInt 1)
  else q

/-- Equality of values: the zeros are equal, and a not-a-number equals nothing. -/
def eqv (x y : Binary64) : Bool :=
  !x.isNaN && !y.isNaN && (decide (x.bits = y.bits) || decide (x.magnitude = 0 ∧ y.magnitude = 0))

/-- The place of a number in the order of all numbers, which follows the values, puts the negative
zero before the positive one, and puts not-a-numbers at the ends by their sign. -/
def rank (x : Binary64) : Int :=
  if x.negative then -(x.magnitude : Int) - 1 else x.magnitude

/-- The order of values: the zeros come together, and a not-a-number has its rank. -/
def order (x y : Binary64) : Ordering := if x.eqv y then .eq else compare x.rank y.rank

theorem isFinite_iff {x : Binary64} :
    x.isFinite = true ↔ x.isNaN = false ∧ x.isInfinite = false := by
  simp only [isFinite, isNaN, isInfinite, decide_eq_true_eq, decide_eq_false_iff_not]
  omega

theorem ofMagnitude_negative_magnitude (x : Binary64) :
    ofMagnitude x.negative x.magnitude = x := by
  obtain ⟨b⟩ := x
  have hb := b.toNat_lt
  have key : (if decide (signBit ≤ b.toNat) = true then signBit + b.toNat % signBit
      else b.toNat % signBit) = b.toNat := by
    unfold signBit
    split
    · rename_i h
      have := of_decide_eq_true h
      omega
    · rename_i h
      have := mt decide_eq_true h
      omega
  exact congrArg Binary64.mk ((congrArg UInt64.ofNat key).trans UInt64.ofNat_toNat)

theorem toNat_bits_ofMagnitude (negative : Bool) {m : Nat} (hm : m < signBit) :
    (ofMagnitude negative m).bits.toNat = if negative then signBit + m else m := by
  have hlt : (if negative then signBit + m else m) < 2 * signBit := by
    split
    · omega
    · omega
  exact UInt64.toNat_ofNat_of_lt' hlt

theorem negative_ofMagnitude (negative : Bool) {m : Nat} (hm : m < signBit) :
    (ofMagnitude negative m).negative = negative := by
  rw [Binary64.negative, toNat_bits_ofMagnitude negative hm]
  cases negative with
  | false => exact decide_eq_false (Nat.not_le_of_lt hm)
  | true => exact decide_eq_true (Nat.le_add_right signBit m)

theorem magnitude_ofMagnitude (negative : Bool) {m : Nat} (hm : m < signBit) :
    (ofMagnitude negative m).magnitude = m := by
  rw [magnitude, toNat_bits_ofMagnitude negative hm]
  cases negative with
  | false => exact Nat.mod_eq_of_lt hm
  | true => exact (Nat.add_mod_left signBit m).trans (Nat.mod_eq_of_lt hm)

end Binary64

end TensorShader
