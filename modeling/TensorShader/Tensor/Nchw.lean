/-! The four tensor dimensions in the order batch, channel, row, column, and quadruples with one
value for each of them. -/

namespace TensorShader

/-- A dimension of a tensor: batch, channel, row, or column. -/
inductive Axis where
  | n | c | h | w
deriving DecidableEq, Repr

namespace Axis

/-- The four dimensions, outermost first. -/
def all : List Axis := [.n, .c, .h, .w]

/-- The position of a dimension in `all`. -/
def index : Axis → Nat
  | .n => 0
  | .c => 1
  | .h => 2
  | .w => 3

/-- The dimension at a position counted modulo 4, so that `-1` names the last one. -/
def ofInt (i : Int) : Axis :=
  match (i % 4).toNat with
  | 0 => .n
  | 1 => .c
  | 2 => .h
  | _ => .w

/-- The component of a shader's four-component vector that holds a dimension's coordinate. -/
def lane : Axis → String
  | .n => "r"
  | .c => "g"
  | .h => "b"
  | .w => "a"

theorem index_ofInt (i : Int) : ((ofInt i).index : Int) = i % 4 := by
  have h : i % 4 = 0 ∨ i % 4 = 1 ∨ i % 4 = 2 ∨ i % 4 = 3 := by omega
  rcases h with h | h | h | h <;> simp [ofInt, h, index]

end Axis

/-- One value for each dimension of a tensor. -/
structure Nchw (α : Type) where
  n : α
  c : α
  h : α
  w : α
deriving DecidableEq, Repr

namespace Nchw

variable {α β : Type}

def get (t : Nchw α) : Axis → α
  | .n => t.n
  | .c => t.c
  | .h => t.h
  | .w => t.w

def ofFn (f : Axis → α) : Nchw α := ⟨f .n, f .c, f .h, f .w⟩

def toList (t : Nchw α) : List α := [t.n, t.c, t.h, t.w]

def map (f : α → β) (t : Nchw α) : Nchw β := ofFn fun d => f (t.get d)

@[simp] theorem get_ofFn (f : Axis → α) (d : Axis) : (ofFn f).get d = f d := by cases d <;> rfl

@[simp] theorem get_map (f : α → β) (t : Nchw α) (d : Axis) : (t.map f).get d = f (t.get d) :=
  get_ofFn _ d

theorem toList_eq_map_get (t : Nchw α) : t.toList = Axis.all.map t.get := rfl

theorem toList_inj {s t : Nchw α} : s.toList = t.toList ↔ s = t := by
  refine ⟨fun h => ?_, fun h => h ▸ rfl⟩
  cases s
  cases t
  simpa [toList] using h

theorem ext_get {s t : Nchw α} (h : ∀ d, s.get d = t.get d) : s = t := by
  cases s; cases t
  simpa [get] using And.intro (h .n) ⟨h .c, h .h, h .w⟩

end Nchw

end TensorShader
