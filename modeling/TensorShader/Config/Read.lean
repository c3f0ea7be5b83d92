import TensorShader.Config.Basic
import TensorShader.Tensor.Shape
import TensorShader.Text.Digits
import TensorShader.Yaml.Document

/-! How settings are read from the entries of a mapping. Each setting may be given once, none has to
be, and nothing else may be given. -/

namespace TensorShader

/-- Why settings cannot be read. -/
inductive ConfigError where
  /-- The text does not hold settings. -/
  | malformed
  /-- There is no text in the named file. -/
  | unreadable (file : String)
  /-- The text of the named file does not hold settings. -/
  | malformedFile (file : String)
deriving DecidableEq, Repr

def malformedConfig : String := "failed to parse compiler config"

def ConfigError.message : ConfigError → String
  | .malformed => malformedConfig
  | .unreadable file => "unable to read " ++ file
  | .malformedFile file => "invalid config in " ++ file ++ ": " ++ malformedConfig

/-- Digits without a superfluous zero at their start. -/
def isCanonical (ds : List Char) : Bool :=
  isDigits ds && (ds.length == 1 || ds.head? != some '0')

/-- The natural number that characters write: decimal without leading zeros, or in a base that
`0x`, `0o` or `0b` names. -/
def unsigned? : List Char → Option Nat
  | '0' :: 'x' :: ds => inBase 16 ds
  | '0' :: 'o' :: ds => inBase 8 ds
  | '0' :: 'b' :: ds => inBase 2 ds
  | ds => if isCanonical ds then some (digitsValue 10 ds) else none
where
  /-- The number that one or more digits write in a base. -/
  inBase (base : Nat) (ds : List Char) : Option Nat :=
    if !ds.isEmpty && ds.all (isDigitIn base) then some (digitsValue base ds) else none

/-- The 32-bit number that a plain scalar writes, perhaps after a plus sign. -/
def Yaml.Scalar.word? (s : Yaml.Scalar) : Option UInt32 :=
  if s.plain then
    let cs := match s.text.toList with
      | '+' :: cs => cs
      | cs => cs
    (unsigned? cs).bind fun n => if n < wordBound then some (.ofNat n) else none
  else none

namespace Config

/-- A setting. -/
inductive Key where
  | glslVersion | precision | packing | maxTextureSize
deriving DecidableEq, Repr

def Key.name : Key → String
  | .glslVersion => "glsl_version"
  | .precision => "precision"
  | .packing => "packing"
  | .maxTextureSize => "max_texture_size"

/-- The setting with a given name. -/
def Key.ofName? : String → Option Key
  | "glsl_version" => some .glslVersion
  | "precision" => some .precision
  | "packing" => some .packing
  | "max_texture_size" => some .maxTextureSize
  | _ => none

/-- The settings with the one that a scalar gives, if the scalar is admissible for it. -/
def set? (c : Config) (key : Key) (value : Yaml.Scalar) : Option Config :=
  match key with
  | .glslVersion => some { c with glslVersion := value.text }
  | .precision => (Precision.ofQualifier? value.text).map ({ c with precision := · })
  | .packing => (Packing.ofName? value.text).map ({ c with packing := · })
  | .maxTextureSize => value.word?.map ({ c with maxTextureSize := · })

/-- The settings `c` with those that entries give, none of which is among the settings `given`. -/
def applyEntries? (c : Config) (given : List Key) : List Yaml.Entry → Option Config
  | [] => some c
  | (name, value) :: rest =>
    match Key.ofName? name.text with
    | none => none
    | some key =>
      if key ∈ given then none
      else (c.set? key value).bind fun c => c.applyEntries? (key :: given) rest

/-- The settings that entries give. The others have their defaults. -/
def ofEntries? (entries : List Yaml.Entry) : Option Config := applyEntries? {} [] entries

def ofText (text : String) : Except ConfigError Config :=
  match (Yaml.entries? text).bind ofEntries? with
  | some c => .ok c
  | none => .error .malformed

/-- The settings in a file, given its bytes, or `none` if there is no such file. -/
def ofFile (file : String) (bytes : Option ByteArray) : Except ConfigError Config :=
  match bytes.bind String.fromUTF8? with
  | none => .error (.unreadable file)
  | some text => (ofText text).mapError fun _ => .malformedFile file

end Config

end TensorShader
