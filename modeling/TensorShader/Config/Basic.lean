import TensorShader.Texture.Layout

/-! The settings that the kernels of one assembler share. -/

namespace TensorShader

/-- The precision of numbers in shaders. -/
inductive Precision where
  | low | medium | high
deriving DecidableEq, Repr

namespace Precision

/-- The qualifier of a precision in shader source and in configuration. -/
def qualifier : Precision → String
  | .low => "lowp"
  | .medium => "mediump"
  | .high => "highp"

def ofQualifier? : String → Option Precision
  | "lowp" => some .low
  | "mediump" => some .medium
  | "highp" => some .high
  | _ => none

end Precision

/-- The settings of an assembler. -/
structure Config where
  /-- What follows `#version` in shader source. -/
  glslVersion : String := "300 es"
  precision : Precision := .high
  packing : Packing := .plain
  /-- The largest texture extent of the device. -/
  maxTextureSize : UInt32 := 4096
deriving DecidableEq, Repr

instance : Inhabited Config := ⟨{}⟩

end TensorShader
