import TensorShader.Subroutine.Library

/-! Plans: the instances that requests need, each once, and each after the instances it depends on.
`Library.resolve` walks the dependencies depth first, in the order in which they are declared. The
walk ends because the names on its stack are different names of the library. -/

namespace TensorShader

/-- Instances in the order in which their sources are written. -/
structure Plan where
  instances : List Subroutine.Instance
deriving DecidableEq, Repr

namespace Plan

def empty : Plan := ⟨[]⟩

def size (p : Plan) : Nat := p.instances.length

/-- The instances that are specialized for an operand, in order. -/
def instancesFor (p : Plan) (key : String) : List Subroutine.Instance :=
  p.instances.filter fun i => i.binding == some key

end Plan

namespace Library

open Subroutine (Instance)

/-- The instances from the latest occurrence of `i` on a stack to its top, and `i` again. The top of
the stack comes first in it. -/
def cycle (stack : List Instance) (i : Instance) : List Instance :=
  i :: (stack.takeWhile (· ≠ i)).reverse ++ [i]

/-- The instances `planned`, then what `i` needs and was not among them, then `i`. `stack` holds
the instances whose dependencies are being visited, the latest first, and `room` is the number of
names of the library that are not on it. -/
def visit (lib : Library) : (room : Nat) → (stack planned : List Instance) → Instance →
    Except Error (List Instance)
  | room, stack, planned, i =>
    if i ∈ planned then .ok planned
    else if i ∈ stack then .error (.subroutineCycle (cycle stack i))
    else
      match lib.lookup i with
      | .error e => .error e
      | .ok s =>
        match room with
        | 0 => .error (.subroutineCycle (cycle stack i))
        | room + 1 => do
          let planned ← s.deps.foldlM (fun planned name => do
            visit lib room (i :: stack) planned (← lib.dependency i name)) planned
          return planned ++ [i]

/-- The plan for requests: what they need, in the order of the requests. -/
def resolve (lib : Library) (requests : List Instance) : Except Error Plan :=
  Plan.mk <$> requests.foldlM (lib.visit lib.size []) []

end Library

end TensorShader
