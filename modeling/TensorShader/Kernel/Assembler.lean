import TensorShader.Config.Basic
import TensorShader.Operator.Catalog
import TensorShader.Subroutine.Addressing

/-! Kernels, and how an assembler makes them: it lays out the output and the operands, resolves the
subroutines that the operator calls, and writes their sources before the operator's body. -/

namespace TensorShader

/-- The shapes of one use of an operator: those of the operands by name, and that of the output. -/
structure OperandShapes where
  inputs : NameMap Shape
  output : Shape
deriving DecidableEq

namespace OperandShapes

def ofOutput (output : Shape) : OperandShapes := ⟨.empty, output⟩

/-- The shapes with one for an operand instead of what was there. -/
def input (shapes : OperandShapes) (name : String) (s : Shape) : OperandShapes :=
  { shapes with inputs := shapes.inputs.insert name s }

def get? (shapes : OperandShapes) (name : String) : Option Shape := shapes.inputs.find? name

end OperandShapes

/-- A finished kernel. -/
structure Kernel where
  operator : String
  source : String
  inputNames : List String
  /-- For each operand, the uniform that holds its texture. -/
  samplers : List (String × String)
  output : LayoutRecord
deriving DecidableEq

/-- Settings and the subroutines that operators may ask for. -/
structure Assembler where
  config : Config
  library : Library

namespace Assembler

def ofConfig (config : Config) : Assembler := ⟨config, .addressing⟩

/-- The layout of a shape, if its texture is not larger than the device allows. -/
def layout (a : Assembler) (s : Shape) : Except Error Layout := do
  let l ← (Layout.of s a.config.packing).mapError .invalidShape
  let limit := a.config.maxTextureSize.toNat
  let width := l.width.toNat
  let height := l.height.toNat
  if limit < width ∨ limit < height then .error (.textureTooLarge width height limit) else .ok l

def bindOperand (a : Assembler) (d : Descriptor) (shapes : OperandShapes) (t : LayoutTable)
    (operand : Operand) : Except Error LayoutTable :=
  match shapes.get? operand.name with
  | none => .error (.missingOperand d.name operand.name)
  | some s => (fun l : Layout => t.bind operand.binding l) <$> a.layout s

def layouts (a : Assembler) (d : Descriptor) (shapes : OperandShapes) :
    Except Error LayoutTable := do
  let output ← a.layout shapes.output
  d.inputs.foldlM (a.bindOperand d shapes) (.ofOutput output)

def header (config : Config) : String :=
  let precision := config.precision.qualifier
  "#version " ++ config.glslVersion ++ "\n" ++
    "precision " ++ precision ++ " float;\n" ++
    "precision " ++ precision ++ " int;\n" ++
    "precision " ++ precision ++ " sampler2DArray;\n"

/-- Sources, each after an empty line and with a line feed at its end. -/
def paragraphs : List String → String
  | [] => ""
  | s :: rest => "\n" ++ s ++ "\n" ++ paragraphs rest

def samplerName (binding : String) : String := "texture_" ++ binding

/-- Nothing, if every parameter that an operator declares is given. -/
def checkParams (d : Descriptor) (params : Params) : Except Error Unit :=
  match d.params.find? fun name => !params.contains name with
  | some name => .error (.unrenderable d.name (.missingParam name))
  | none => .ok ()

/-- The kernel of an operator with parameters and shapes. -/
def assemble (a : Assembler) (op : Operator) (params : Params) (shapes : OperandShapes) :
    Except Error Kernel := do
  let d := op.descriptor
  checkParams d params
  let layouts ← a.layouts d shapes
  let plan ← a.library.resolve d.requests
  let fragments ← a.library.render plan layouts
  let body ← op.renderBody (← BodyContext.of d layouts params)
  return {
    operator := d.name
    source := header a.config ++ paragraphs (fragments.map (·.source) ++ [body])
    inputNames := d.inputNames
    samplers := d.inputs.map fun operand => (operand.name, samplerName operand.binding)
    output := layouts.output }

/-- The kernel of the operator that a catalog has under a name. -/
def compile (a : Assembler) (c : Catalog) (name : String) (params : Params)
    (shapes : OperandShapes) : Except Error Kernel := do
  a.assemble (← c.lookup name) params shapes

end Assembler

end TensorShader
