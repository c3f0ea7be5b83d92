import TensorShader.Proofs.Addressing.Fragment
import TensorShader.Proofs.Shader.Function
import TensorShader.Proofs.Template.Fill
import TensorShader.Subroutine.Addressing

/-! The shader source that clamps a coordinate into an operand: its text, the function that the
text defines, and the coordinate that the function results in. -/

namespace TensorShader

open Subroutine (Instance)
open Template (extentBound)

/-- The greatest indices of a shape. -/
def Shape.lastIndex (s : Shape) : Nchw Nat := s.dims.map (· - 1)

/-- The numbers that a coordinate is clamped to: extents less one, that of the batches by their
count in the height. For a record with an empty extent one of them is -1. -/
def LayoutRecord.limits (l : LayoutRecord) : Nchw Int :=
  ⟨l.packRatio.toNat - 1, l.shape.dims.c - 1, l.shape.dims.h - 1, l.shape.dims.w - 1⟩

/-- On a texture that fits, a coordinate is clamped to the greatest indices of the shape. -/
theorem Layout.limits_eq (l : Layout) : l.limits = l.shape.lastIndex.map Nat.cast := by
  obtain ⟨hn, hc, hh, hw⟩ := l.shape.nonempty_iff.1 l.nonempty
  have hcast {n : Nat} (hpos : 0 < n) : (n : Int) - 1 = (n - 1 : Nat) := by omega
  rw [LayoutRecord.limits, l.toNat_packRatio, hcast hn, hcast hc, hcast hh, hcast hw]
  rfl

namespace Library

def clampTemplate : Template :=
  .text "ivec4 " <| .output (.variable "ident" 1) <|
  .text "(int n, int c, int h, int w) \x7b\n    return ivec4(\n        min(n, " <|
  extentBound (.attribute (.variable "layout" 3) "pack_ratio") 3 <|
  .text "),\n        min(c, " <|
  extentBound (.attribute (.attribute (.variable "layout" 4) "shape") "c") 4 <|
  .text "),\n        min(h, " <|
  extentBound (.attribute (.attribute (.variable "layout" 5) "shape") "h") 5 <|
  .text "),\n        min(w, " <|
  extentBound (.attribute (.attribute (.variable "layout" 6) "shape") "w") 6 <|
  .text "));\n\x7d" .done

theorem parse_clampSource : Template.parse clampSource = .ok clampTemplate := by
  rw [clampSource, Template.parse_lines]
  simp only [List.map_cons, List.map_nil, String.reduceToList]
  decide +kernel

/-- The texts before, between and after the greatest indices, from the parameters on. -/
def clampTexts : List String :=
  ["int n, int c, int h, int w) \x7b\n    return ivec4(\n        min(n, ",
    "),\n        min(c, ", "),\n        min(h, ", "),\n        min(w, ", "));\n\x7d"]

/-- The text that clamps to the given limits, from the parameters on. -/
def clampBody (limits : Nchw Int) : String := Shader.weave clampTexts (limits.toList.map toString)

def clampText (name : String) (limits : Nchw Int) : String :=
  "ivec4 " ++ (name ++ ("(" ++ clampBody limits))

theorem fill_clampTemplate (i : Instance) (l out : LayoutRecord) :
    clampTemplate.fill (i.context l out) = .ok (clampText i.ident l.limits) := by
  have hlt := l.shape.dims_get_lt
  rw [clampTemplate, Template.fill_text, Template.fill_output (v := .string i.ident) rfl rfl,
    Template.fill_text,
    Template.fill_extentBound (n := l.packRatio.toNat) rfl l.packRatio.toNat_lt,
    Template.fill_text, Template.fill_extentBound (n := l.shape.dims.c) rfl (hlt .c),
    Template.fill_text, Template.fill_extentBound (n := l.shape.dims.h) rfl (hlt .h),
    Template.fill_text, Template.fill_extentBound (n := l.shape.dims.w) rfl (hlt .w),
    Template.fill_text, Template.fill]
  simp only [Functor.map, Except.map, String.append_empty]
  have hparams : "(int n, int c, int h, int w) \x7b\n    return ivec4(\n        min(n, " =
      "(" ++ "int n, int c, int h, int w) \x7b\n    return ivec4(\n        min(n, " := by decide
  rw [hparams, String.append_assoc]
  rfl

theorem fragment_formatNCHW {t : LayoutTable} {key : String} {l : LayoutRecord}
    (hl : t.layoutOf ⟨"formatNCHW", some key⟩ = .ok l) :
    addressing.fragment t ⟨"formatNCHW", some key⟩ =
      .ok ⟨⟨"formatNCHW", some key⟩,
        clampText (Instance.ident ⟨"formatNCHW", some key⟩) l.limits⟩ := by
  have hlookup : addressing.lookup ⟨"formatNCHW", some key⟩ =
      .ok ⟨"formatNCHW", true, [], clampSource⟩ := rfl
  exact fragment_eq hlookup hl parse_clampSource (fill_clampTemplate _ l _)

open Shader (Expr Function)

/-- The index in a variable, clamped to the greatest one. -/
def clampedIndex (name : String) (last : Nat) : Expr :=
  .call "min" (.also (.variable name) (.number last))

/-- The function that clamps to the given greatest indices. -/
def clampFunction (last : Nchw Nat) : Function :=
  ⟨["n", "c", "h", "w"], [.result (.call "ivec4" (.ofNchw ⟨clampedIndex "n" last.n,
    clampedIndex "c" last.c, clampedIndex "h" last.h, clampedIndex "w" last.w⟩))]⟩

def minStart (name : String) : List Shader.Token :=
  [.word "min", .symbol '(', .word name, .symbol ',']

theorem tokens_clampTexts : clampTexts.map (Shader.tokens ·.toList) =
    [[.word "int", .word "n", .symbol ',', .word "int", .word "c", .symbol ',', .word "int",
      .word "h", .symbol ',', .word "int", .word "w", .symbol ')', .symbol '\x7b',
      .word "return", .word "ivec4", .symbol '('] ++ minStart "n",
     [.symbol ')', .symbol ','] ++ minStart "c", [.symbol ')', .symbol ','] ++ minStart "h",
     [.symbol ')', .symbol ','] ++ minStart "w",
     [.symbol ')', .symbol ')', .symbol ';', .symbol '\x7d']] := by
  decide +kernel

theorem tokens_clampBody (limits : Nchw Int) :
    Shader.tokens (clampBody limits).toList =
      Shader.weave (clampTexts.map (Shader.tokens ·.toList))
        (limits.toList.map Shader.intTokens) := by
  have hlength : clampTexts.length = (limits.toList.map toString).length + 1 := rfl
  rw [clampBody, Shader.tokens_weave (by decide +kernel) hlength, List.map_map]
  simp only [Function.comp_def, Shader.tokens_int]

/-- The text of clamping, from the parameters on, defines its function. -/
theorem ofTokens?_clampBody (last : Nchw Nat) :
    Function.ofTokens? (Shader.tokens (clampBody (last.map Nat.cast)).toList) =
      some (clampFunction last) := by
  rw [tokens_clampBody, tokens_clampTexts]
  rfl

/-- The text of clamping defines its function under its name. -/
theorem read?_clampText (key : String) (last : Nchw Nat) :
    Function.read? (Instance.ident ⟨"formatNCHW", some key⟩)
      (clampText (Instance.ident ⟨"formatNCHW", some key⟩) (last.map Nat.cast)) =
        some (clampFunction last) := by
  have hhead : (Instance.ident ⟨"formatNCHW", some key⟩).toList.head? = some 'f' := by
    simp [Instance.ident]
  rw [clampText, Function.read?_append hhead (by decide), ofTokens?_clampBody]

/-- The function clamps each component of a coordinate. -/
theorem call_clampFunction (calls : String → List Int → Option (List Int))
    (globals : List (String × List Int)) (last p : Nchw Nat) :
    (clampFunction last).call calls globals p.vector =
      some (Nchw.vector (Nchw.ofFn fun d => min (p.get d) (last.get d))) := by
  have hcall : (clampFunction last).call calls globals p.vector =
      some [min (p.n : Int) last.n, min (p.c : Int) last.c, min (p.h : Int) last.h,
        min (p.w : Int) last.w] := rfl
  have hmin (i j : Nat) : min (i : Int) j = (min i j : Nat) := by omega
  rw [hcall, hmin, hmin, hmin, hmin]
  rfl

end Library

end TensorShader
