import TensorShader.Kernel.Compiler
import TensorShader.Proofs.Except

/-! A compiler answers as if it had no cache: whatever calls came before, the result of a call is
the kernel that its assembler makes of what is asked for, or the error. -/

namespace TensorShader

namespace KernelCache

variable {c : KernelCache} {a : Assembler} {ops : Catalog} {key : KernelKey}

/-- Every kernel of the cache is what the assembler makes of its key with the operators of the
catalog. -/
def Fresh (c : KernelCache) (a : Assembler) (ops : Catalog) : Prop :=
  ∀ key k, c.find? key = some k →
    a.compile ops key.operator key.params key.shapes = .ok k.kernel

theorem Fresh.empty (a : Assembler) (ops : Catalog) : KernelCache.empty.Fresh a ops :=
  fun _ _ h => nomatch h

theorem Fresh.add (h : c.Fresh a ops) {kernel : Kernel}
    (hk : a.compile ops key.operator key.params key.shapes = .ok kernel) :
    (c.add key kernel).Fresh a ops := by
  intro other k hfind
  rw [find?_add] at hfind
  split at hfind
  · rename_i heq
    cases hfind
    rw [heq, hk]
  · exact h other k hfind

/-- What a fresh cache gives is what is compiled without it. -/
theorem Fresh.kernel_getOrCompile (h : c.Fresh a ops) (key : KernelKey) :
    (c.getOrCompile a ops key).1.map (·.kernel) =
      a.compile ops key.operator key.params key.shapes := by
  rcases c.getOrCompile_cases a ops key with
    ⟨k, hk, hserve⟩ | ⟨-, ⟨kernel, hkernel, hserve⟩ | ⟨e, herror, hserve⟩⟩ <;> rw [hserve]
  · exact (h key k hk).symm
  · exact hkernel.symm
  · exact herror.symm

theorem Fresh.getOrCompile (h : c.Fresh a ops) (key : KernelKey) :
    (c.getOrCompile a ops key).2.Fresh a ops := by
  rcases c.getOrCompile_cases a ops key with
    ⟨k, -, hserve⟩ | ⟨-, ⟨kernel, hkernel, hserve⟩ | ⟨e, -, hserve⟩⟩ <;> rw [hserve]
  · exact h
  · exact h.add hkernel
  · exact h

end KernelCache

namespace Compiler

/-- The results of calls, each on the compiler that the call before it left. -/
def results (c : Compiler) : List KernelKey → List (Except Error Kernel)
  | [] => []
  | key :: keys => (c.compile key).1.map (·.kernel) :: (c.compile key).2.results keys

/-- The result of a call on a compiler that keeps nothing. -/
def uncached (a : Assembler) (ops : Catalog) (key : KernelKey) : Except Error Kernel :=
  match ops.find? key.operator with
  | some op => a.assemble op key.params key.shapes
  | none => .error (.operatorNotFound key.operator)

theorem compile_eq_uncached (a : Assembler) (ops : Catalog) (key : KernelKey) :
    a.compile ops key.operator key.params key.shapes = uncached a ops key := by
  unfold Assembler.compile Catalog.lookup uncached
  cases ops.find? key.operator <;> rfl

theorem results_of_fresh {c : Compiler} (h : c.cache.Fresh c.assembler c.catalog)
    (keys : List KernelKey) : c.results keys = keys.map (uncached c.assembler c.catalog) := by
  induction keys generalizing c with
  | nil => rfl
  | cons key keys ih =>
    have hkernel := h.kernel_getOrCompile key
    rw [compile_eq_uncached] at hkernel
    -- a call changes nothing but the cache, which stays fresh
    have hrest : (c.compile key).2.results keys = keys.map (uncached c.assembler c.catalog) :=
      ih (h.getOrCompile key)
    rw [results, List.map_cons, hrest]
    exact congrArg (· :: keys.map (uncached c.assembler c.catalog)) hkernel

/-- The result of each call is what the assembler makes of what is asked for, or the error that
there is no such operator, whatever calls came before. -/
theorem results_start (a : Assembler) (ops : Catalog) (keys : List KernelKey) :
    (start a ops).results keys = keys.map fun key =>
      match ops.find? key.operator with
      | some op => a.assemble op key.params key.shapes
      | none => .error (.operatorNotFound key.operator) :=
  results_of_fresh (.empty a ops) keys

end Compiler

end TensorShader
