import TensorShader.Subroutine.Plan
import TensorShader.Template.Render
import TensorShader.Texture.Value

/-! Fragments: the shader source of the instances of a plan, each rendered for the layout that it is
specialized for. -/

namespace TensorShader

open Subroutine (Instance)
open Template (Value)

/-- The source of an instance. -/
structure Fragment where
  inst : Instance
  source : String
deriving DecidableEq, Repr

def Fragment.ident (f : Fragment) : String := f.inst.ident

/-- The text of a template in a context, with its name in the error. -/
def renderNamed (name template : String) (ctx : Value) : Except Error String :=
  (Template.render template ctx).mapError fun f => .unrenderable name (.template f)

/-- What the template of an instance may read: its identifier, its binding, the layout it is
specialized for and the sampler type of that, and the output's layout. -/
def Subroutine.Instance.context (i : Instance) (layout output : LayoutRecord) : Value :=
  .map [("binding", i.binding.elim .none .string), ("ident", .string i.ident),
    ("layout", layout.value), ("out", output.value), ("sampler", .string layout.sampler)]

/-- The fragment of an instance. -/
def Library.fragment (lib : Library) (layouts : LayoutTable) (i : Instance) :
    Except Error Fragment := do
  let s ← lib.lookup i
  let layout ← layouts.layoutOf i
  return ⟨i, ← renderNamed i.ident s.template (i.context layout layouts.output)⟩

/-- The fragments of a plan, in its order. -/
def Library.render (lib : Library) (p : Plan) (layouts : LayoutTable) :
    Except Error (List Fragment) :=
  p.instances.mapM (lib.fragment layouts)

end TensorShader
