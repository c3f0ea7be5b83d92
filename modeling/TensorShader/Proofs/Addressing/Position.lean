import TensorShader.Proofs.Addressing.Texel
import TensorShader.Proofs.Shader.Linked

/-! The shader source that finds the coordinate of the output element at a texel: the texts of the
two subroutines that work together, the functions that they define, and the coordinate that
results. -/

namespace TensorShader

open Subroutine (Instance)

/-- The global variables of a shader at a texel of its output. The coordinate of the fragment has
further components, which the library does not read. -/
def Texel.globals (t : Texel) (further : List Int) : List (String × List Int) :=
  [("gl_FragCoord", (t.x : Int) :: (t.y : Int) :: further), ("u_out_layer", [(t.layer : Int)])]

namespace Library

open Shader (Expr Function Statement)

def transferTemplate : Template :=
  .text "ivec4 " <| .output (.variable "ident" 1) <|
  .text "(int n, int h, int w, int c) \x7b\n    return ivec4(n, c, h, w);\n\x7d" .done

theorem parse_transferSource : Template.parse transferSource = .ok transferTemplate := by
  rw [transferSource, Template.parse_lines]
  simp only [List.map_cons, List.map_nil, String.reduceToList]
  decide +kernel

def transferBody : String :=
  "int n, int h, int w, int c) \x7b\n    return ivec4(n, c, h, w);\n\x7d"

def transferText (name : String) : String := "ivec4 " ++ (name ++ ("(" ++ transferBody))

theorem fill_transferTemplate (i : Instance) (l out : LayoutRecord) :
    transferTemplate.fill (i.context l out) = .ok (transferText i.ident) := by
  have hfill : transferTemplate.fill (i.context l out) = .ok ("ivec4 " ++ (i.ident ++
      ("(int n, int h, int w, int c) \x7b\n    return ivec4(n, c, h, w);\n\x7d" ++ ""))) := rfl
  rw [hfill]
  refine congrArg Except.ok (String.toList_inj.1 ?_)
  simp [transferText, transferBody]

theorem fragment_transfer (t : LayoutTable) :
    addressing.fragment t ⟨"transferFromNHWCtoNCHW", none⟩ =
      .ok ⟨⟨"transferFromNHWCtoNCHW", none⟩, transferText "transferFromNHWCtoNCHW"⟩ := by
  have hlookup : addressing.lookup ⟨"transferFromNHWCtoNCHW", none⟩ =
      .ok ⟨"transferFromNHWCtoNCHW", false, [], transferSource⟩ := rfl
  exact fragment_eq hlookup rfl parse_transferSource (fill_transferTemplate _ t.output _)

/-- The function that moves the last component behind the first. -/
def transferFunction : Function :=
  ⟨["n", "h", "w", "c"], [.result (.call "ivec4" (.ofNchw ⟨.variable "n", .variable "c",
    .variable "h", .variable "w"⟩))]⟩

theorem read?_transferText :
    Function.read? "transferFromNHWCtoNCHW" (transferText "transferFromNHWCtoNCHW") =
      some transferFunction := by
  have htokens : Function.ofTokens? (Shader.tokens transferBody.toList) =
      some transferFunction := by decide +kernel
  rw [transferText, Function.read?_append (c := 't') (by decide) (by decide), htokens]

theorem call_transferFunction (calls : String → List Int → Option (List Int))
    (globals : List (String × List Int)) (n c h w : Int) :
    transferFunction.call calls globals [n, h, w, c] = some [n, c, h, w] := rfl

def positionTemplate : Template :=
  .choice (.binary .eq (.attribute (.variable "out" 1) "packing") (.literal (.string "plain") 1))
    (.text "uniform int u_out_layer;\n\n" .done) .done <|
  .text "ivec4 " <| .output (.variable "ident" 5) <|
  .text "() \x7b\n    ivec2 xy = ivec2(gl_FragCoord.xy);\n    int n = xy.y / " <|
  .output (extentOf "out" "h" 7) <|
  .text ";\n    int h = xy.y - n * " <| .output (extentOf "out" "h" 8) <| .text ";\n" <|
  .choice (sideBySide "out" 9)
    (.text "    int c = xy.x / " <| .output (extentOf "out" "w" 10) <|
      .text ";\n    int w = xy.x - c * " <| .output (extentOf "out" "w" 11) <| .text ";\n" .done)
    (.text "    int c = u_out_layer;\n    int w = xy.x;\n" .done)
    (.text "    return transferFromNHWCtoNCHW(n, h, w, c);\n\x7d" .done)

theorem parse_outputPositionSource :
    Template.parse outputPositionSource = .ok positionTemplate := by
  rw [outputPositionSource, Template.parse_lines]
  simp only [List.map_cons, List.map_nil, String.reduceToList]
  decide +kernel

/-- What stands before the function: a layer of the output is chosen from outside. -/
def positionFront : Packing → String
  | .plain => "uniform int u_out_layer;\n\nivec4 "
  | .channelMajor => "ivec4 "

/-- The texts before, between and after the extents, from the parameters on. -/
def positionTexts : Packing → List String
  | .plain =>
    [") \x7b\n    ivec2 xy = ivec2(gl_FragCoord.xy);\n    int n = xy.y / ",
      ";\n    int h = xy.y - n * ",
      ";\n    int c = u_out_layer;\n    int w = xy.x;\n" ++
        "    return transferFromNHWCtoNCHW(n, h, w, c);\n\x7d"]
  | .channelMajor =>
    [") \x7b\n    ivec2 xy = ivec2(gl_FragCoord.xy);\n    int n = xy.y / ",
      ";\n    int h = xy.y - n * ", ";\n    int c = xy.x / ", ";\n    int w = xy.x - c * ",
      ";\n    return transferFromNHWCtoNCHW(n, h, w, c);\n\x7d"]

/-- The extents by which the place on the texture is divided. -/
def positionExtents (packing : Packing) (s : Shape) : List Nat :=
  match packing with
  | .plain => [s.dims.h, s.dims.h]
  | .channelMajor => [s.dims.h, s.dims.h, s.dims.w, s.dims.w]

def positionBody (packing : Packing) (s : Shape) : String :=
  Shader.weave (positionTexts packing) ((positionExtents packing s).map toString)

def positionText (name : String) (out : LayoutRecord) : String :=
  positionFront out.packing ++ (name ++ ("(" ++ positionBody out.packing out.shape))

theorem fill_positionTemplate (i : Instance) (l out : LayoutRecord) :
    positionTemplate.fill (i.context l out) = .ok (positionText i.ident out) := by
  have hpacked : (sideBySide "out" 9).eval (i.context l out) =
      .ok (.bool (out.packing == .channelMajor)) := by
    obtain ⟨shape, packing, width, height, layers, packRatio⟩ := out
    cases packing <;> rfl
  have hlayered : (Template.Expr.binary .eq (.attribute (.variable "out" 1) "packing")
      (.literal (.string "plain") 1)).eval (i.context l out) =
      .ok (.bool (out.packing == .plain)) := by
    obtain ⟨shape, packing, width, height, layers, packRatio⟩ := out
    cases packing <;> rfl
  have hheight (line : Nat) (rest : Template) :
      (Template.output (extentOf "out" "h" line) rest).fill (i.context l out) =
        (toString out.shape.dims.h ++ ·) <$> rest.fill (i.context l out) :=
    Template.fill_extent rfl rest
  have hwidth (line : Nat) (rest : Template) :
      (Template.output (extentOf "out" "w" line) rest).fill (i.context l out) =
        (toString out.shape.dims.w ++ ·) <$> rest.fill (i.context l out) :=
    Template.fill_extent rfl rest
  have hplain : (Packing.plain == .channelMajor) = false := rfl
  have hchannel : (Packing.channelMajor == .plain) = false := rfl
  rw [positionTemplate, Template.fill_choice (b := out.packing == .plain) hlayered rfl,
    Template.fill_text, Template.fill_output (s := i.ident) rfl rfl, Template.fill_text, hheight,
    Template.fill_text, hheight, Template.fill_text,
    Template.fill_choice (b := out.packing == .channelMajor) hpacked rfl, positionText,
    positionBody]
  cases out.packing <;>
  · simp only [hplain, hchannel, beq_self_eq_true, cond_true, cond_false, Template.fill_text,
      hwidth, Template.fill.eq_1]
    refine congrArg Except.ok (String.toList_inj.1 ?_)
    simp [positionFront, positionTexts, positionExtents, Shader.weave]

theorem fragment_getOutputTensorPos (t : LayoutTable) :
    addressing.fragment t ⟨"getOutputTensorPos", none⟩ =
      .ok ⟨⟨"getOutputTensorPos", none⟩, positionText "getOutputTensorPos" t.output⟩ := by
  have hlookup : addressing.lookup ⟨"getOutputTensorPos", none⟩ =
      .ok ⟨"getOutputTensorPos", false, ["transferFromNHWCtoNCHW"], outputPositionSource⟩ := rfl
  exact fragment_eq hlookup rfl parse_outputPositionSource (fill_positionTemplate _ t.output _)

/-- The declarations of a row from a place `xy.component` on the texture, and of the place in it. -/
def splitPlace (component : String) (length : Nat) (row place : String) : List Statement :=
  let xy : Expr := .select (.variable "xy") component
  [.declare row (.binary .div xy (.number length)),
    .declare place (.binary .sub xy (.binary .mul (.variable row) (.number length)))]

def positionFunction (packing : Packing) (s : Shape) : Function :=
  let columns : List Statement :=
    match packing with
    | .plain => [.declare "c" (.variable "u_out_layer"),
        .declare "w" (.select (.variable "xy") "x")]
    | .channelMajor => splitPlace "x" s.dims.w "c" "w"
  ⟨[], .declare "xy" (.call "ivec2" (.select (.variable "gl_FragCoord") "xy")) ::
    (splitPlace "y" s.dims.h "n" "h" ++ columns ++
      [.result (.call "transferFromNHWCtoNCHW" (.ofNchw ⟨.variable "n", .variable "h",
        .variable "w", .variable "c"⟩))])⟩

/-- The tokens up to the first division. -/
def positionStartTokens : List Shader.Token :=
  [.symbol ')', .symbol '\x7b', .word "ivec2", .word "xy", .symbol '=', .word "ivec2",
    .symbol '(', .word "gl_FragCoord", .symbol '.', .word "xy", .symbol ')', .symbol ';',
    .word "int", .word "n", .symbol '=', .word "xy", .symbol '.', .word "y", .symbol '/']

/-- The tokens between a division and the product that is taken from the place. -/
def placeTokens (component row place : String) : List Shader.Token :=
  [.symbol ';', .word "int", .word place, .symbol '=', .word "xy", .symbol '.', .word component,
    .symbol '-', .word row, .symbol '*']

def positionEndTokens : List Shader.Token :=
  [.symbol ';', .word "return", .word "transferFromNHWCtoNCHW", .symbol '(', .word "n",
    .symbol ',', .word "h", .symbol ',', .word "w", .symbol ',', .word "c", .symbol ')',
    .symbol ';', .symbol '\x7d']

theorem tokens_positionTexts (packing : Packing) :
    (positionTexts packing).map (Shader.tokens ·.toList) =
      match packing with
      | .plain =>
        [positionStartTokens, placeTokens "y" "n" "h",
          [.symbol ';', .word "int", .word "c", .symbol '=', .word "u_out_layer", .symbol ';',
            .word "int", .word "w", .symbol '=', .word "xy", .symbol '.', .word "x"] ++
            positionEndTokens]
      | .channelMajor =>
        [positionStartTokens, placeTokens "y" "n" "h",
          [.symbol ';', .word "int", .word "c", .symbol '=', .word "xy", .symbol '.', .word "x",
            .symbol '/'], placeTokens "x" "c" "w", positionEndTokens] := by
  cases packing <;> decide +kernel

theorem tokens_positionBody (packing : Packing) (s : Shape) :
    Shader.tokens (positionBody packing s).toList =
      Shader.weave ((positionTexts packing).map (Shader.tokens ·.toList))
        ((positionExtents packing s).map fun n => [.number n]) := by
  have hlength : (positionTexts packing).length = (positionExtents packing s).length + 1 := by
    cases packing <;> rfl
  have hapart : Shader.areApart (positionTexts packing) = true := by
    cases packing <;> decide +kernel
  exact Shader.tokens_weave_toString hapart hlength

theorem ofTokens?_positionBody (packing : Packing) (s : Shape) :
    Function.ofTokens? (Shader.tokens (positionBody packing s).toList) =
      some (positionFunction packing s) := by
  rw [tokens_positionBody, tokens_positionTexts]
  cases packing <;> rfl

theorem read?_positionText (out : LayoutRecord) :
    Function.read? "getOutputTensorPos" (positionText "getOutputTensorPos" out) =
      some (positionFunction out.packing out.shape) := by
  have hfront : 'g' ∉ (positionFront out.packing).toList := by
    cases out.packing <;> decide
  rw [positionText, Function.read?_append (c := 'g') (by decide) hfront, ofTokens?_positionBody]

/-- The declarations of a row and the place in it hold the quotient and the remainder. -/
theorem run_splitPlace {calls : String → List Int → Option (List Int)}
    {scope : List (String × List Int)} {component row place : String} {length v : Nat}
    {xy : List Int} (rest : List Statement) (hpos : 0 < length) (hrow : ("xy" == row) = false)
    (hxy : scope.lookup "xy" = some xy)
    (hv : (component.toList.mapM fun letter => (Expr.position? letter).bind (xy[·]?)) =
      some [(v : Int)]) :
    Function.run calls scope (splitPlace component length row place ++ rest) =
      Function.run calls ((place, [((v % length : Nat) : Int)]) ::
        (row, [((v / length : Nat) : Int)]) :: scope) rest := by
  -- places are not negative, so division that truncates rounds down
  have hquotient : (v : Int).tdiv length = v / length := Int.tdiv_eq_ediv_of_nonneg (by omega)
  have hremainder : (v : Int) - v / length * length = v % length := by
    have hsum := Int.ediv_mul_add_emod (v : Int) length
    omega
  have hdiv : (Expr.binary .div (.select (.variable "xy") component) (.number length)).eval calls
      scope = some [((v / length : Nat) : Int)] := by
    simp [Expr.eval, hxy, hv, Arithmetic.onInts?, Nat.ne_of_gt hpos, hquotient]
  have hsub : (Expr.binary .sub (.select (.variable "xy") component)
      (.binary .mul (.variable row) (.number length))).eval calls
      ((row, [((v / length : Nat) : Int)]) :: scope) = some [((v % length : Nat) : Int)] := by
    simp [Expr.eval, List.lookup_cons, hrow, hxy, hv, Arithmetic.onInts?, hremainder]
  simp only [splitPlace, List.cons_append, List.nil_append, Function.run, hdiv, hsub, bind,
    Option.bind]

/-- At a texel of the output, the function results in the coordinate of the element that the texel
holds. -/
theorem call_positionFunction {calls : String → List Int → Option (List Int)}
    (hcalls : ∀ n c h w, calls "transferFromNHWCtoNCHW" [n, h, w, c] = some [n, c, h, w])
    {l : LayoutRecord} (hl : l.shape.Nonempty) (t : Texel) (further : List Int) :
    (positionFunction l.packing l.shape).call calls (t.globals further) [] =
      some (l.coord t).vector := by
  obtain ⟨-, -, hh, hw⟩ := l.shape.nonempty_iff.1 hl
  have hstart (rest : List Statement) : Function.call
      ⟨[], .declare "xy" (.call "ivec2" (.select (.variable "gl_FragCoord") "xy")) ::
        (splitPlace "y" l.shape.dims.h "n" "h" ++ rest)⟩ calls (t.globals further) [] =
      Function.run calls (("h", [((t.y % l.shape.dims.h : Nat) : Int)]) ::
        ("n", [((t.y / l.shape.dims.h : Nat) : Int)]) ::
        ("xy", [(t.x : Int), (t.y : Int)]) :: t.globals further) rest :=
    run_splitPlace rest hh rfl rfl rfl
  rw [positionFunction.eq_def]
  simp only [List.append_assoc]
  rw [hstart]
  unfold LayoutRecord.coord
  cases l.packing with
  | plain => exact hcalls _ _ _ _
  | channelMajor =>
    rw [run_splitPlace _ hw rfl rfl rfl]
    exact hcalls _ _ _ _

end Library

end TensorShader
