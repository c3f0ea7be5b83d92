import TensorShader.Kernel.Assembler

/-! Assembling in stages: the parameters are checked, layouts are found, and what follows the header
is written. Of the settings, the second stage reads the packing and the limit, and the third one
nothing. -/

namespace TensorShader

/-- What follows the header in the source of a kernel: the subroutines that are called, and the
body. -/
def Library.text (lib : Library) (op : Operator) (params : Params) (t : LayoutTable) :
    Except Error String := do
  let plan ← lib.resolve op.descriptor.requests
  let fragments ← lib.render plan t
  let body ← BodyContext.of op.descriptor t params >>= op.renderBody
  return Assembler.paragraphs (fragments.map (·.source) ++ [body])

theorem Assembler.assemble_eq_stages (a : Assembler) (op : Operator) (params : Params)
    (shapes : OperandShapes) :
    a.assemble op params shapes = do
      checkParams op.descriptor params
      let t ← a.layouts op.descriptor shapes
      let text ← a.library.text op params t
      return {
        operator := op.descriptor.name
        source := header a.config ++ text
        inputNames := op.descriptor.inputNames
        samplers := op.descriptor.inputs.map fun operand =>
          (operand.name, samplerName operand.binding)
        output := t.output } := by
  simp only [assemble, Library.text, bind_assoc, pure_bind]

end TensorShader
