import TensorShader.Proofs.Addressing.Clamp

/-! Broadcasting in shaders. A shader that clamps a coordinate into an operand and reads the operand
with the arguments of an alignment reads it at the coordinate that `Coord.broadcast` results in. -/

namespace TensorShader

open Shader (IsName)

namespace Alignment

/-- The texts before, between and after the vectors in the arguments of an alignment. -/
def argTexts : Alignment → List String
  | .whole => ["", ".r, ", ".g, ", ".b, ", ".a"]
  | .channel => ["0, ", ".g, ", ".b, ", ".a"]
  | .row => ["0, 0, ", ".b, ", ".a"]
  | .column => ["0, 0, 0, ", ".a"]

theorem length_argTexts (a : Alignment) : a.argTexts.length = 4 - a.leading + 1 := by
  cases a <;> rfl

theorem areApart_argTexts (a : Alignment) : Shader.areApart a.argTexts = true := by
  cases a <;> decide

theorem readArgs_eq_weave (a : Alignment) (var : String) :
    a.readArgs var = Shader.weave a.argTexts (List.replicate (4 - a.leading) var) := by
  apply String.toList_inj.1
  cases a <;>
    simp [readArgs, argTexts, Shader.weave, Axis.all, Axis.index, Axis.lane, leading,
      List.replicate]

theorem tokens_readArgs (a : Alignment) {var : String} (hvar : IsName var) :
    Shader.tokens (a.readArgs var).toList =
      Shader.weave (a.argTexts.map (Shader.tokens ·.toList))
        (List.replicate (4 - a.leading) [.word var]) := by
  have hlength : a.argTexts.length = (List.replicate (4 - a.leading) var).length + 1 := by
    rw [List.length_replicate, a.length_argTexts]
  rw [readArgs_eq_weave, Shader.tokens_weave a.areApart_argTexts hlength, List.map_replicate,
    Shader.tokens_name hvar]

/-- The argument of a dimension. -/
def arg (a : Alignment) (var : String) (d : Axis) : Shader.Expr :=
  if d.index < a.leading then .number 0 else .select (.variable var) d.lane

theorem read?_readArgs (a : Alignment) {var : String} (hvar : IsName var) :
    Shader.Expr.read? (a.readArgs var) = some (.ofNchw (.ofFn (a.arg var))) := by
  have hwhole : whole.argTexts.map (Shader.tokens ·.toList) =
      [[], [.symbol '.', .word "r", .symbol ','], [.symbol '.', .word "g", .symbol ','],
       [.symbol '.', .word "b", .symbol ','], [.symbol '.', .word "a"]] := by decide +kernel
  have hchannel : channel.argTexts.map (Shader.tokens ·.toList) =
      [[.number 0, .symbol ','], [.symbol '.', .word "g", .symbol ','],
       [.symbol '.', .word "b", .symbol ','], [.symbol '.', .word "a"]] := by decide +kernel
  have hrow : row.argTexts.map (Shader.tokens ·.toList) =
      [[.number 0, .symbol ',', .number 0, .symbol ','], [.symbol '.', .word "b", .symbol ','],
       [.symbol '.', .word "a"]] := by decide +kernel
  have hcolumn : column.argTexts.map (Shader.tokens ·.toList) =
      [[.number 0, .symbol ',', .number 0, .symbol ',', .number 0, .symbol ','],
       [.symbol '.', .word "a"]] := by decide +kernel
  rw [Shader.Expr.read?, tokens_readArgs a hvar]
  cases a with
  | whole => rw [hwhole]; rfl
  | channel => rw [hchannel]; rfl
  | row => rw [hrow]; rfl
  | column => rw [hcolumn]; rfl

/-- Arguments have the components of their vector, but 0 in the leading dimensions. -/
theorem eval_args (a : Alignment) {calls : String → List Int → Option (List Int)}
    {scope : List (String × List Int)} {var : String} {q : Nchw Nat}
    (hvar : scope.lookup var = some q.vector) :
    (Shader.Expr.ofNchw (.ofFn (a.arg var))).eval calls scope =
      some (Nchw.vector (Nchw.ofFn fun d => if d.index < a.leading then 0 else q.get d)) := by
  refine Shader.Expr.eval_ofNchw fun d => ?_
  rw [Nchw.get_ofFn, Nchw.get_ofFn, arg]
  split
  · rfl
  · simp only [Shader.Expr.eval, hvar]
    cases d <;> rfl

/-- An argument list has the components of its vector, but 0 in the leading dimensions. -/
theorem valueOf?_readArgs (a : Alignment) {var : String} (hvar : IsName var) (q : Nchw Nat) :
    Shader.valueOf? [(var, q.vector)] (a.readArgs var) =
      some (Nchw.vector (Nchw.ofFn fun d => if d.index < a.leading then 0 else q.get d)) := by
  rw [Shader.valueOf?, read?_readArgs a hvar]
  exact a.eval_args List.lookup_cons_self

end Alignment

/-- Broadcasting clamps to the last index of each dimension, and then leaves out the leading ones. -/
theorem Coord.broadcast_eq_clamped (p : Coord) (s : Shape) (a : Alignment) :
    p.broadcast s a = Nchw.ofFn fun d => if d.index < a.leading then 0
      else (Nchw.ofFn fun d => min (p.get d) (s.lastIndex.get d)).get d := by
  refine Nchw.ext_get fun d => ?_
  rw [Coord.get_broadcast, Nchw.get_ofFn, Nchw.get_ofFn, Shape.lastIndex, Nchw.get_map]

/-- Where a shader reads an operand is where broadcasting says: the coordinate that the rendered
clamping function results in, read with the arguments of an alignment, is the broadcast one. -/
theorem Coord.vector_broadcast (t : LayoutTable) (key : String) (l : Layout) (axis : Int) (p : Coord)
    {var : String} (hvar : IsName var) :
    ∃ fragment clamp q,
      Library.addressing.fragment (t.bind key l) ⟨"formatNCHW", some key⟩ = .ok fragment ∧
      Shader.Function.read? fragment.ident fragment.source = some clamp ∧
      clamp.call (fun _ _ => none) [] p.vector = some q ∧
      Shader.valueOf? [(var, q)] ((Alignment.ofParam axis).readArgs var) =
        some (p.broadcast l.shape (.ofParam axis)).vector := by
  have hread := Library.read?_clampText key l.shape.lastIndex
  rw [← l.limits_eq] at hread
  refine ⟨_, _, _, Library.fragment_formatNCHW (t.layoutOf_bind _ key l), hread,
    Library.call_clampFunction _ _ l.shape.lastIndex p, ?_⟩
  rw [Alignment.valueOf?_readArgs _ hvar, p.broadcast_eq_clamped]

/-- A plain layout of 2 batches of 3 channels with 4 rows and 5 columns. -/
def sampleLayout : Layout :=
  .ofFits ⟨⟨2, 3, 4, 5⟩⟩ .plain (by decide) (by decide) (by decide)

/-- Aligned with its channels, the operand is read at batch 0, and at its last channel and column
for an element further out. -/
theorem Coord.vector_broadcast_channel :
    IsName BodyContext.coordVar ∧
      ∃ fragment clamp q,
        Library.addressing.fragment ((LayoutTable.ofOutput sampleLayout).bind "counter" sampleLayout)
          ⟨"formatNCHW", some "counter"⟩ = .ok fragment ∧
        Shader.Function.read? fragment.ident fragment.source = some clamp ∧
        clamp.call (fun _ _ => none) [] [5, 7, 2, 9] = some q ∧
        Shader.valueOf? [(BodyContext.coordVar, q)]
          ((Alignment.ofParam 1).readArgs BodyContext.coordVar) = some [0, 2, 2, 4] :=
  ⟨by decide, Coord.vector_broadcast (.ofOutput sampleLayout) "counter" sampleLayout 1
    ⟨5, 7, 2, 9⟩ (by decide)⟩

end TensorShader
