import TensorShader.Number.Text

/-! The numbers that templates compute with: integers, each in a format of 64 or 128 bits, and
floating-point numbers. The formats matter where two numbers meet: an operation on integers has
operands and a result of 128 bits with a sign, and an integer is compared with a floating-point
number as one of those. -/

namespace TensorShader.Template

/-- The formats of integers. -/
inductive IntFormat where
  | signed64 | unsigned64 | signed128 | unsigned128
deriving DecidableEq, Repr

namespace IntFormat

def least : IntFormat → Int
  | .signed64 => -9223372036854775808
  | .signed128 => -170141183460469231731687303715884105728
  | .unsigned64 | .unsigned128 => 0

def greatest : IntFormat → Int
  | .signed64 => 9223372036854775807
  | .unsigned64 => 18446744073709551615
  | .signed128 => 170141183460469231731687303715884105727
  | .unsigned128 => 340282366920938463463374607431768211455

/-- Whether an integer is one of a format. -/
def holds (f : IntFormat) (i : Int) : Bool := decide (f.least ≤ i) && decide (i ≤ f.greatest)

/-- The formats of integers that are written as digits. -/
def written : List IntFormat := [.unsigned64, .unsigned128]

def computed : List IntFormat := [.signed64, .signed128]

end IntFormat

/-- An integer in a format. -/
structure Integer where
  value : Int
  format : IntFormat
deriving DecidableEq, Repr

namespace Integer

def ofInt? (formats : List IntFormat) (i : Int) : Option Integer :=
  (formats.find? (·.holds i)).map (⟨i, ·⟩)

/-- The integer as one of 128 bits with a sign. -/
def signed? (i : Integer) : Option Int :=
  if IntFormat.signed128.holds i.value then some i.value else none

/-- The integer whose 128 bits are read with a sign. -/
def reread (i : Integer) : Int := i.value.bmod 340282366920938463463374607431768211456

/-- Two integers as operands. If both are unsigned and of 128 bits, their bits are read with a
sign. -/
def operands? (i j : Integer) : Option (Int × Int) :=
  if i.format = .unsigned128 ∧ j.format = .unsigned128 then some (i.reread, j.reread)
  else do return (← i.signed?, ← j.signed?)

/-- The floating-point number that an integer is compared as: the one of the same value, and for
the greatest integer of a format the next power of two. -/
def comparedFloat? (i : Integer) : Option Binary64 :=
  let x := Binary64.ofInt i.value
  if x.signedUnits = i.value * Binary64.unit ∨ i.value = i.format.greatest then some x else none

def orderFloat (i : Integer) (y : Binary64) : Ordering :=
  match i.comparedFloat? with
  | some x => x.order y
  | none =>
    if y.isFinite then compare (i.value * Binary64.unit) y.signedUnits else compare 0 y.rank

theorem value_of_ofInt? {formats : List IntFormat} {i : Int} {j : Integer}
    (h : ofInt? formats i = some j) : j.value = i := by
  obtain ⟨f, -, rfl⟩ := Option.map_eq_some_iff.1 h
  rfl

/-- An integer in the first format that holds it lies in that format. -/
theorem holds_of_ofInt? {formats : List IntFormat} {i : Int} {j : Integer}
    (h : ofInt? formats i = some j) : j.format.holds j.value = true := by
  obtain ⟨f, hf, rfl⟩ := Option.map_eq_some_iff.1 h
  simpa using List.find?_some hf

end Integer

/-- A number. -/
inductive Number where
  | int (i : Integer)
  | float (x : Binary64)
deriving DecidableEq, Repr

namespace Number

def toFloat : Number → Binary64
  | .int i => .ofInt i.value
  | .float x => x

def isZero : Number → Bool
  | .int i => i.value == 0
  | .float x => x.magnitude == 0

/-- The number of times that a number stands for: itself, if it is whole, at least zero, and below
`2^64`; a floating-point number has to be below `2^63`, or is cut to the integer before it. -/
def count? : Number → Option Nat
  | .int i => if IntFormat.unsigned64.holds i.value then some i.value.toNat else none
  | .float x =>
    let n := x.units / Binary64.unit
    if !x.isFinite || x.isBelowZero || x.units % Binary64.unit != 0 ||
        decide (Binary64.signBit < n) then none
    else some (min n (Binary64.signBit - 1))

def eqv : Number → Number → Bool
  | .int i, .int j => i.value == j.value
  | .float x, .float y => x.eqv y
  | .int i, .float y | .float y, .int i => i.comparedFloat?.any (·.eqv y)

def order : Number → Number → Ordering
  | .int i, .int j => compare i.value j.value
  | .float x, .float y => x.order y
  | .int i, .float y => i.orderFloat y
  | .float x, .int j => (j.orderFloat x).swap

/-- The text of a number, whose floating-point form has a style. -/
def text (style : NumberStyle) : Number → String
  | .int i => toString i.value
  | .float x => x.text style

end Number

end TensorShader.Template
