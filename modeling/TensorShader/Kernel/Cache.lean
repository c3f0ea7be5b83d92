import TensorShader.Kernel.Assembler

/-! Caches of kernels. A kernel is found again by the name, the parameters and the shapes that were
asked for, whatever assembler and catalog are at hand then. It is kept under the signature of these,
in which a floating-point number stands for its bits. Kernels are numbered in the order in which
they were compiled, so a kernel that is served again can be told from one compiled anew. -/

namespace TensorShader

/-- What is asked for when a kernel is compiled. -/
structure KernelKey where
  operator : String
  params : Params
  shapes : OperandShapes
deriving DecidableEq

/-- What tells parameters apart: their type and their value, and for floating-point numbers their
bits. -/
inductive ParamKey where
  | int (i : Int)
  | float (bits : UInt64)
  | bool (b : Bool)
deriving DecidableEq, Repr

def Param.key : Param → ParamKey
  | .int i => .int i
  | .float x => .float x.bits
  | .bool b => .bool b

/-- The form in which a kernel's key is kept and compared. -/
structure KernelSignature where
  operator : String
  params : List (String × ParamKey)
  shapes : OperandShapes
deriving DecidableEq

def KernelKey.signature (key : KernelKey) : KernelSignature :=
  ⟨key.operator, key.params.entries.map fun e => (e.1, e.2.key), key.shapes⟩

theorem Param.key_inj {p q : Param} : p.key = q.key ↔ p = q := by
  cases p with
  | float x => cases x; cases q with
    | float y => cases y; simp [key]
    | _ => simp [key]
  | _ => cases q <;> simp [key]

/-- Different keys have different signatures. -/
theorem KernelKey.signature_inj {a b : KernelKey} : a.signature = b.signature ↔ a = b := by
  refine ⟨fun h => ?_, fun h => h ▸ rfl⟩
  obtain ⟨hop, hparams, hshapes⟩ := KernelSignature.mk.inj h
  have hinj : ∀ x y : String × Param, (x.1, x.2.key) = (y.1, y.2.key) → x = y := by
    intro x y hxy
    obtain ⟨hname, hkey⟩ := Prod.mk.inj hxy
    exact Prod.ext hname (Param.key_inj.mp hkey)
  have hsame : a.params = b.params := NameMap.ext_entries ((List.map_inj_right hinj).mp hparams)
  cases a; cases b
  cases hop; cases hsame; cases hshapes
  rfl

/-- A kernel with its number in the order of compilation. -/
structure Compiled where
  serial : Nat
  kernel : Kernel
deriving DecidableEq

/-- Kernels by what was asked for, and how many have been compiled, counting those that were
cleared. -/
structure KernelCache where
  entries : List (KernelSignature × Compiled)
  compiled : Nat

namespace KernelCache

def empty : KernelCache := ⟨[], 0⟩

def find? (c : KernelCache) (key : KernelKey) : Option Compiled :=
  c.entries.lookup key.signature

def size (c : KernelCache) : Nat := c.entries.length

/-- The cache without its kernels. The count goes on. -/
def clear (c : KernelCache) : KernelCache := { c with entries := [] }

/-- The cache with one more kernel, which gets the next number. -/
def add (c : KernelCache) (key : KernelKey) (kernel : Kernel) : KernelCache :=
  ⟨(key.signature, ⟨c.compiled, kernel⟩) :: c.entries, c.compiled + 1⟩

@[simp] theorem find?_clear (c : KernelCache) (key : KernelKey) : c.clear.find? key = none := rfl

/-- A kernel is found under the key it was added for, and nothing changes under the others. -/
theorem find?_add (c : KernelCache) (key other : KernelKey) (kernel : Kernel) :
    (c.add key kernel).find? other =
      if other = key then some ⟨c.compiled, kernel⟩ else c.find? other := by
  unfold find? add
  rw [List.lookup_cons]
  by_cases h : other = key
  · simp [h]
  · have hne : other.signature ≠ key.signature := fun heq => h (KernelKey.signature_inj.mp heq)
    simp [h, beq_eq_false_iff_ne.mpr hne]

/-- The kernel for a key, compiled if the cache has none, and the cache that keeps it. An error is
not kept. -/
def getOrCompile (c : KernelCache) (a : Assembler) (ops : Catalog) (key : KernelKey) :
    Except Error Compiled × KernelCache :=
  match c.find? key with
  | some k => (.ok k, c)
  | none =>
    match a.compile ops key.operator key.params key.shapes with
    | .ok kernel => (.ok ⟨c.compiled, kernel⟩, c.add key kernel)
    | .error e => (.error e, c)

/-- What a call can do: it serves the kernel that is kept under its key, or else adds a new one or
fails. -/
theorem getOrCompile_cases (c : KernelCache) (a : Assembler) (ops : Catalog) (key : KernelKey) :
    (∃ k, c.find? key = some k ∧ c.getOrCompile a ops key = (.ok k, c)) ∨
      c.find? key = none ∧
        ((∃ kernel, a.compile ops key.operator key.params key.shapes = .ok kernel ∧
            c.getOrCompile a ops key = (.ok ⟨c.compiled, kernel⟩, c.add key kernel)) ∨
          ∃ e, a.compile ops key.operator key.params key.shapes = .error e ∧
            c.getOrCompile a ops key = (.error e, c)) := by
  unfold getOrCompile
  cases c.find? key with
  | some k => exact .inl ⟨k, rfl, rfl⟩
  | none =>
    cases a.compile ops key.operator key.params key.shapes with
    | ok kernel => exact .inr ⟨rfl, .inl ⟨kernel, rfl, rfl⟩⟩
    | error e => exact .inr ⟨rfl, .inr ⟨e, rfl, rfl⟩⟩

/-- A call that fails leaves the cache as it is. -/
theorem getOrCompile_of_error {c : KernelCache} {a : Assembler} {ops : Catalog} {key : KernelKey}
    {e : Error} (h : (c.getOrCompile a ops key).1 = .error e) :
    (c.getOrCompile a ops key).2 = c := by
  rcases c.getOrCompile_cases a ops key with
    ⟨k, -, hserve⟩ | ⟨-, ⟨kernel, -, hserve⟩ | ⟨e, -, hserve⟩⟩
  · rw [hserve]
  · rw [hserve] at h
    cases h
  · rw [hserve]

end KernelCache

end TensorShader
