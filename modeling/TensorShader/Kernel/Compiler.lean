import TensorShader.Kernel.Cache

/-! Compilers: an assembler, a catalog of operators, and the kernels compiled so far. -/

namespace TensorShader

/-- What is needed to compile kernels, and the kernels compiled so far. -/
structure Compiler where
  assembler : Assembler
  catalog : Catalog
  cache : KernelCache

namespace Compiler

/-- A compiler that has not compiled anything. -/
def start (a : Assembler) (ops : Catalog) : Compiler := ⟨a, ops, .empty⟩

/-- The compiler of the library's operators with the given settings. -/
def ofConfig (config : Config) : Compiler := start (.ofConfig config) .builtin

def config (c : Compiler) : Config := c.assembler.config

def cachedKernels (c : Compiler) : Nat := c.cache.size

/-- The kernel for a key, and the compiler that keeps it. -/
def compile (c : Compiler) (key : KernelKey) : Except Error Compiled × Compiler :=
  let served := c.cache.getOrCompile c.assembler c.catalog key
  (served.1, { c with cache := served.2 })

/-- A call that fails leaves the compiler as it is. -/
theorem compile_of_error {c : Compiler} {key : KernelKey} {e : Error}
    (h : (c.compile key).1 = .error e) : (c.compile key).2 = c := by
  have hcache := KernelCache.getOrCompile_of_error h
  exact congrArg (fun cache => { c with cache }) hcache

end Compiler

end TensorShader
