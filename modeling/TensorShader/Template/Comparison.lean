import TensorShader.Template.Value

/-! How values are compared: their equality, their order, and what it means that one contains
another. -/

namespace TensorShader.Template.Value

/-- Equality: numbers and truth values by value, text by its characters, sequences and iterables by
their items, and maps by their fields in any order. -/
def eqv : Value → Value → Bool
  | .undefined, .undefined | .none, .none => true
  | .string s, .string t => s == t
  | .function f, .function g => f == g
  | .sequence xs, .sequence ys | .sequence xs, .iterable ys => eqvItems xs ys
  | .iterable xs, .sequence ys | .iterable xs, .iterable ys => eqvItems xs ys
  | .map xs, .map ys => xs.length == ys.length && eqvFields xs ys
  | a, b =>
    match a.number?, b.number? with
    | some x, some y => x.eqv y
    | _, _ => false
where
  eqvItems : List Value → List Value → Bool
    | [], [] => true
    | x :: xs, y :: ys => eqv x y && eqvItems xs ys
    | _, _ => false
  /-- Whether fields are among others. -/
  eqvFields : List (String × Value) → List (String × Value) → Bool
    | [], _ => true
    | (name, x) :: xs, ys =>
      (match ys.lookup name with
        | some y => eqv x y
        | Option.none => false) && eqvFields xs ys

/-- The order of two values: by kind, numbers by value, text by code points, and items and fields
one after the other, a name before its value. -/
def order : Value → Value → Ordering
  | .bool a, .bool b => compare a.toNat b.toNat
  | .number x, .number y => x.order y
  | .string s, .string t | .function s, .function t => compare s t
  | .sequence xs, .sequence ys | .iterable xs, .iterable ys => orderItems xs ys
  | .map xs, .map ys => orderFields xs ys
  | a, b => compare a.kind.rank b.kind.rank
where
  orderItems : List Value → List Value → Ordering
    | [], [] => .eq
    | [], _ :: _ => .lt
    | _ :: _, [] => .gt
    | x :: xs, y :: ys => (order x y).then (orderItems xs ys)
  orderFields : List (String × Value) → List (String × Value) → Ordering
    | [], [] => .eq
    | [], _ :: _ => .lt
    | _ :: _, [] => .gt
    | (a, x) :: xs, (b, y) :: ys => (compare a b).then ((order x y).then (orderFields xs ys))

end TensorShader.Template.Value
