import TensorShader.Proofs.Shader.Function
import TensorShader.Subroutine.Fragment

/-! Functions of several fragments. A function calls those that fragments before its own define. -/

namespace TensorShader.Shader

/-- The value of a function of fragments, the latest fragment first, in a scope of global
variables. -/
def callIn (globals : List (String × List Int)) :
    List Fragment → String → List Int → Option (List Int)
  | [], _, _ => none
  | f :: earlier, name, args =>
    if name = f.ident then do
      (← Function.read? name f.source).call (callIn globals earlier) globals args
    else callIn globals earlier name args

variable {globals : List (String × List Int)} {earlier : List Fragment} {f : Fragment}
  {name : String} {args : List Int}

theorem callIn_self {g : Function} (h : Function.read? f.ident f.source = some g) :
    callIn globals (f :: earlier) f.ident args = g.call (callIn globals earlier) globals args := by
  rw [callIn, if_pos rfl, h]
  rfl

theorem callIn_cons_of_ne (h : name ≠ f.ident) :
    callIn globals (f :: earlier) name args = callIn globals earlier name args := by
  rw [callIn, if_neg h]

theorem callIn_append_of_not_mem {later : List Fragment} (h : name ∉ later.map Fragment.ident) :
    callIn globals (later ++ earlier) name args = callIn globals earlier name args := by
  induction later with
  | nil => rfl
  | cons f later ih =>
    obtain ⟨hne, hrest⟩ := not_or.1 (mt List.mem_cons.2 h)
    rw [List.cons_append, callIn_cons_of_ne hne, ih hrest]

end TensorShader.Shader
