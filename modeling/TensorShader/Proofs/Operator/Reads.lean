import TensorShader.Proofs.Addressing.Broadcast
import TensorShader.Proofs.Number.Literal
import TensorShader.Proofs.Operator.Statements

/-! Where the bodies of the operators that come with the library read their operands. A run over the
statements of a body takes the coordinate of the output element and the clamping of a coordinate
from the functions that the body calls. -/

namespace TensorShader

open Shader (Token IsName callTokens evalTokens? readsOf? runReads? scopeAfter?)
open Subroutine (Instance)

/-- The functions that fetch elements of operands, and the names of the operands. -/
def Descriptor.fetches (d : Descriptor) : List (String × String) :=
  d.inputs.map fun o => (Instance.ident ⟨"getValueFromTensorPos", some o.binding⟩, o.name)

/-- The coordinate that lies further on along an axis. -/
def Coord.advance (p : Coord) (axis : Axis) (n : Nat) : Coord :=
  Nchw.ofFn fun d => if d = axis then p.get d + n else p.get d

namespace Operator

section Steps

variable {calls : String → List Int → Option (List Int)} {fetches : List (String × String)}
  {scope : List (String × List Int)} {rest : List (List Token)} {ts : List Token}
  {x : String} {here : List (String × List Int)}

theorem evalTokens?_laneTokens {q : Nchw Nat} (hx : scope.lookup x = some q.vector) :
    evalTokens? calls scope (laneTokens x) = some q.vector := by
  have hread : Shader.Expr.ofTokens? [] none (laneTokens x) =
      some (.ofNchw (.ofFn (Alignment.whole.arg x))) := rfl
  rw [evalTokens?, hread]
  exact Alignment.whole.eval_args hx

theorem evalTokens?_position :
    evalTokens? calls scope (callTokens "getOutputTensorPos" []) = calls "getOutputTensorPos" [] :=
  rfl

theorem evalTokens?_clamp {q : Nchw Nat} (hx : scope.lookup x = some q.vector) :
    evalTokens? calls scope (callTokens "formatNCHW_counter" (laneTokens x)) =
      calls "formatNCHW_counter" q.vector := by
  have hread : Shader.Expr.ofTokens? [] none (callTokens "formatNCHW_counter" (laneTokens x)) =
      some (.call "formatNCHW_counter" (.ofNchw (.ofFn (Alignment.whole.arg x)))) := rfl
  have hargs : (Shader.Expr.ofNchw (.ofFn (Alignment.whole.arg x))).eval calls scope =
      some q.vector := Alignment.whole.eval_args hx
  rw [evalTokens?, hread]
  simp only [Shader.Expr.eval, hargs, bind, Option.bind]
  rfl

theorem runReads?_coordinate {v : List Int}
    (hsilent : (declareTokens "ivec4" x ts).all (Token.isSilent fetches) = true)
    (hv : evalTokens? calls scope ts = some v) :
    runReads? calls fetches scope (declareTokens "ivec4" x ts :: rest) =
      runReads? calls fetches ((x, v) :: scope) rest := by
  have hscope : scopeAfter? calls scope (declareTokens "ivec4" x ts) = some ((x, v) :: scope) := by
    show (do return (x, ← evalTokens? calls scope ts) :: scope) = _
    rw [hv]
    rfl
  rw [Shader.runReads?_cons (Shader.readsOf?_silent hsilent) hscope]
  cases runReads? calls fetches ((x, v) :: scope) rest <;> rfl

theorem readsOf?_fetched {f operand : String} {position : List Int}
    (hx : [.word "float", .word x].all (Token.isSilent fetches) = true)
    (hf : fetches.lookup f = some operand) (hsilent : ts.all (Token.isSilent fetches) = true)
    (hopen : .symbol '(' ∉ ts) (hclose : .symbol ')' ∉ ts)
    (hposition : evalTokens? calls scope ts = some position) :
    readsOf? calls fetches scope (declareTokens "float" x (callTokens f ts)) =
      some [(operand, position)] := by
  have hfront : [.word "float", .word x, .symbol '='].all (Token.isSilent fetches) = true := by
    simpa [Token.isSilent] using hx
  have htokens : declareTokens "float" x (callTokens f ts) =
      [.word "float", .word x, .symbol '='] ++ (callTokens f ts ++ []) := by
    simp [declareTokens]
  rw [htokens]
  exact Shader.readsOf?_around hfront rfl hf hsilent hopen hclose hposition

/-- A floating-point number leaves the scope of coordinates. -/
theorem runReads?_number
    (hreads : readsOf? calls fetches scope (declareTokens "float" x ts) = some here) :
    runReads? calls fetches scope (declareTokens "float" x ts :: rest) =
      (here ++ ·) <$> runReads? calls fetches (scope.filter fun v => v.1 ≠ x) rest :=
  Shader.runReads?_cons hreads rfl

theorem runReads?_setOutput
    (hreads : readsOf? calls fetches scope (callTokens "setOutput" ts) = some here) :
    runReads? calls fetches scope [callTokens "setOutput" ts] = some here := by
  rw [Shader.runReads?_cons hreads rfl]
  exact congrArg some (List.append_nil here)

end Steps

variable {calls : String → List Int → Option (List Int)} {globals : List (String × List Int)}

theorem fetches_elementwise (name : String) (op : Arithmetic) :
    (elementwise name op).descriptor.fetches =
      [("getValueFromTensorPos_origin", "X"), ("getValueFromTensorPos_counter", "Y")] := rfl

theorem all_tokens_readArgs (a : Alignment) (t : Token)
    (ht : t ∈ Shader.tokens (a.readArgs BodyContext.coordVar).toList) :
    t.isInner = true ∧ t.isSilent [("getValueFromTensorPos_origin", "X"),
      ("getValueFromTensorPos_counter", "Y")] = true ∧ t ≠ .symbol '(' ∧ t ≠ .symbol ')' := by
  revert t
  cases a <;> decide +kernel

theorem tokens_symbol (op : Arithmetic) :
    ∃ c, Shader.tokens op.symbol.toList = [.symbol c] ∧ (Token.symbol c).isInner = true := by
  cases op <;> exact ⟨_, rfl, rfl⟩

theorem isInner_elementwiseStatements (a : Alignment) (op : Arithmetic) :
    ∀ s ∈ elementwiseStatements (Shader.tokens (a.readArgs BodyContext.coordVar).toList)
      (Shader.tokens op.symbol.toList), s.all Token.isInner = true := by
  have hargs : (Shader.tokens (a.readArgs BodyContext.coordVar).toList).all Token.isInner = true :=
    List.all_eq_true.2 fun t ht => (all_tokens_readArgs a t ht).1
  obtain ⟨c, hc, hinner⟩ := tokens_symbol op
  simp only [elementwiseStatements, List.forall_mem_cons, hc]
  refine ⟨by decide, by decide, by decide, ?_, ?_, by decide, by simp⟩
  · simp [declareTokens, callTokens, hargs, Token.isInner]
  · simp [declareTokens, hinner]
    decide

theorem main?_elementwiseBody (axis : Int) (a : Alignment) (op : Arithmetic) :
    Shader.main? (elementwiseBody axis (a.readArgs BodyContext.coordVar) op) =
      some (elementwiseStatements (Shader.tokens (a.readArgs BodyContext.coordVar).toList)
        (Shader.tokens op.symbol.toList)) := by
  have hfront : 'm' ∉ (elementwiseFront axis).toList := by
    rw [elementwiseFront, String.toList_append, String.toList_append, List.mem_append,
      List.mem_append]
    -- `m` stands neither in the texts nor in a written number
    rintro (h | h | h)
    · revert h
      decide
    · have hliteral := isLiteralChar_of_mem_int h
      revert hliteral
      decide
    · revert h
      decide
  exact Shader.main?_eq hfront (tokens_elementwiseBody _ _) (isInner_elementwiseStatements a op)

theorem evalTokens?_readArgs (a : Alignment) {scope : List (String × List Int)} {q : Nchw Nat}
    (hq : scope.lookup BodyContext.coordVar = some q.vector) :
    evalTokens? calls scope (Shader.tokens (a.readArgs BodyContext.coordVar).toList) =
      some (Nchw.vector (Nchw.ofFn fun d => if d.index < a.leading then 0 else q.get d)) := by
  have hread : Shader.Expr.ofTokens? [] none
      (Shader.tokens (a.readArgs BodyContext.coordVar).toList) =
      some (.ofNchw (.ofFn (a.arg BodyContext.coordVar))) := a.read?_readArgs (by decide)
  rw [evalTokens?, hread]
  exact a.eval_args hq

/-- An elementwise body reads its first operand at the output coordinate, and the second one where
the arguments of its alignment say, given the clamped coordinate. -/
theorem mainReads?_elementwiseBody {p q : Nchw Nat} (name : String) (axis : Int) (a : Alignment)
    (op : Arithmetic) (hposition : calls "getOutputTensorPos" [] = some p.vector)
    (hclamp : calls "formatNCHW_counter" p.vector = some q.vector) :
    Shader.mainReads? calls (elementwise name op).descriptor.fetches globals
      (elementwiseBody axis (a.readArgs BodyContext.coordVar) op) =
      some [("X", p.vector), ("Y",
        Nchw.vector (Nchw.ofFn fun d => if d.index < a.leading then 0 else q.get d))] := by
  have hlane : (laneTokens "oPos1").all (Token.isSilent
      [("getValueFromTensorPos_origin", "X"), ("getValueFromTensorPos_counter", "Y")]) = true := by
    decide
  have hquiet := all_tokens_readArgs a
  have hargs {scope : List (String × List Int)} (h : scope.lookup "oPos" = some q.vector) :
      evalTokens? calls scope (Shader.tokens (a.readArgs BodyContext.coordVar).toList) =
        some (Nchw.vector (Nchw.ofFn fun d => if d.index < a.leading then 0 else q.get d)) :=
    evalTokens?_readArgs a h
  obtain ⟨c, hc, -⟩ := tokens_symbol op
  rw [Shader.mainReads?_eq (main?_elementwiseBody axis a op), fetches_elementwise, hc]
  unfold elementwiseStatements
  -- one step per statement; declaring the number `o` leaves `oPos1` in scope, which is clamped next
  rw [runReads?_coordinate (by decide) (evalTokens?_position.trans hposition),
    runReads?_number (readsOf?_fetched (by decide) rfl hlane (by decide) (by decide)
      (evalTokens?_laneTokens List.lookup_cons_self)),
    List.filter_cons_of_pos (by simp),
    runReads?_coordinate (by decide) ((evalTokens?_clamp List.lookup_cons_self).trans hclamp),
    runReads?_number (readsOf?_fetched (by decide) rfl
      (List.all_eq_true.2 fun t ht => (hquiet t ht).2.1) (fun h => (hquiet _ h).2.2.1 rfl)
      (fun h => (hquiet _ h).2.2.2 rfl) (hargs List.lookup_cons_self)),
    runReads?_number (Shader.readsOf?_silent (by simp [declareTokens, Token.isSilent])),
    runReads?_setOutput (Shader.readsOf?_silent (by decide))]
  rfl

theorem all_tokens_floatLiteral {x : Binary64} {t : Token}
    (ht : t ∈ Shader.tokens (Template.floatLiteral x).toList) :
    t.isInner = true ∧ t.isSilent [("getValueFromTensorPos_origin", "X")] = true := by
  rw [Template.floatLiteral_eq] at ht
  cases t with
  | word f =>
    refine ⟨rfl, Option.isNone_iff_eq_none.2 ?_⟩
    rw [NameMap.lookup_cons_ite, if_neg]
    · rfl
    · rintro rfl
      -- the name of the function has letters that no written number has
      have hletter : 'g' ∈ "getValueFromTensorPos_origin".toList := by decide
      have hliteral := Binary64.isLiteralChar_of_mem_text (Shader.mem_word_tokens ht _ hletter)
      revert hliteral
      decide
  | number n => exact ⟨rfl, rfl⟩
  | symbol c =>
    have hliteral := Binary64.isLiteralChar_of_mem_text (Shader.mem_symbol_tokens ht)
    refine ⟨?_, rfl⟩
    have hne (d : Char) (hd : isLiteralChar d = false) : c ≠ d := by
      rintro rfl
      rw [hd] at hliteral
      cases hliteral
    simp [Token.isInner, hne ';' (by decide), hne '\x7b' (by decide), hne '\x7d' (by decide)]

theorem all_resultTokens {P : Token → Bool} (hnumber : ∀ (x : Binary64) (t : Token),
      t ∈ Shader.tokens (Template.floatLiteral x).toList → P t = true)
    (hothers : [.symbol '*', .symbol '(', .word "x", .symbol '+', .symbol ')'].all P = true)
    (after : Bool) (factor bias : Binary64) :
    (resultTokens after (Shader.tokens (Template.floatLiteral factor).toList)
      (Shader.tokens (Template.floatLiteral bias).toList)).all P = true := by
  have hfactor := List.all_eq_true.2 (hnumber factor)
  have hbias := List.all_eq_true.2 (hnumber bias)
  simp only [List.all_cons, Bool.and_eq_true] at hothers
  obtain ⟨htimes, hopen, hx, hplus, hclose, -⟩ := hothers
  cases after <;> simp [resultTokens, hfactor, hbias, htimes, hopen, hx, hplus, hclose]

theorem isInner_scaleStatements (after : Bool) (factor bias : Binary64) :
    ∀ s ∈ scaleStatements (resultTokens after
      (Shader.tokens (Template.floatLiteral factor).toList)
      (Shader.tokens (Template.floatLiteral bias).toList)), s.all Token.isInner = true := by
  simp only [scaleStatements, List.forall_mem_cons]
  refine ⟨by decide, by decide, ?_, by decide, by simp⟩
  have hresult := all_resultTokens (P := Token.isInner)
    (fun _ _ ht => (all_tokens_floatLiteral ht).1) (by decide) after factor bias
  simp [declareTokens, hresult, Token.isInner]

theorem main?_scaleBody (after : Bool) (factor bias : Binary64) :
    Shader.main? (scaleBody after factor bias) =
      some (scaleStatements (resultTokens after
        (Shader.tokens (Template.floatLiteral factor).toList)
        (Shader.tokens (Template.floatLiteral bias).toList))) := by
  exact Shader.main?_eq (by decide) (tokens_scaleBody after _ _)
    (isInner_scaleStatements after factor bias)

theorem mainReads?_scaleBody {p : Nchw Nat} (after : Bool) (factor bias : Binary64)
    (hposition : calls "getOutputTensorPos" [] = some p.vector) :
    Shader.mainReads? calls scale.descriptor.fetches globals (scaleBody after factor bias) =
      some [("X", p.vector)] := by
  have hfetches : scale.descriptor.fetches = [("getValueFromTensorPos_origin", "X")] := rfl
  have hresult := all_resultTokens (P := Token.isSilent [("getValueFromTensorPos_origin", "X")])
    (fun _ _ ht => (all_tokens_floatLiteral ht).2) (by decide) after factor bias
  rw [Shader.mainReads?_eq (main?_scaleBody after factor bias), hfetches]
  unfold scaleStatements
  rw [runReads?_coordinate (by decide) (evalTokens?_position.trans hposition),
    runReads?_number (readsOf?_fetched (by decide) rfl (by decide) (by decide) (by decide)
      (evalTokens?_laneTokens List.lookup_cons_self)),
    runReads?_number (Shader.readsOf?_silent (by simp [declareTokens, hresult, Token.isSilent])),
    runReads?_setOutput (Shader.readsOf?_silent (by decide))]
  rfl

theorem isName_lane (d : Axis) : IsName d.lane := by cases d <;> decide

theorem isInner_splitStatements (lane : String) (offset : Nat) :
    ∀ s ∈ splitStatements lane offset, s.all Token.isInner = true := by
  simp only [splitStatements, List.forall_mem_cons]
  exact ⟨by decide, by simp [Token.isInner], by decide, by simp⟩

theorem main?_splitBody (d : Axis) (offset : Nat) :
    Shader.main? (splitBody d offset) = some (splitStatements d.lane offset) := by
  exact Shader.main?_eq (by decide) (tokens_splitBody (isName_lane d) offset)
    (isInner_splitStatements d.lane offset)

theorem scopeAfter?_advance (p : Nchw Nat) (d : Axis) (offset : Nat) :
    scopeAfter? calls (("oPos", p.vector) :: globals) [.word "oPos", .symbol '.', .word d.lane,
      .symbol '+', .symbol '=', .number offset] =
      some (("oPos", (Coord.advance p d offset).vector) :: ("oPos", p.vector) :: globals) := by
  cases d <;> rfl

theorem mainReads?_splitBody {p : Nchw Nat} (d : Axis) (offset : Nat)
    (hposition : calls "getOutputTensorPos" [] = some p.vector) :
    Shader.mainReads? calls split.descriptor.fetches globals (splitBody d offset) =
      some [("X", (Coord.advance p d offset).vector)] := by
  have hfetches : split.descriptor.fetches = [("getValueFromTensorPos_origin", "X")] := rfl
  have hsilent : [.word "oPos", .symbol '.', .word d.lane, .symbol '+', .symbol '=',
      .number offset].all (Token.isSilent [("getValueFromTensorPos_origin", "X")]) = true := by
    cases d <;> rfl
  rw [Shader.mainReads?_eq (main?_splitBody d offset), hfetches]
  unfold splitStatements
  rw [runReads?_coordinate (by decide) (evalTokens?_position.trans hposition),
    Shader.runReads?_cons (Shader.readsOf?_silent hsilent) (scopeAfter?_advance p d offset)]
  have hreads (scope : List (String × List Int)) : readsOf? calls
      [("getValueFromTensorPos_origin", "X")]
      (("oPos", (Coord.advance p d offset).vector) :: scope)
      (callTokens "setOutput" (callTokens "getValueFromTensorPos_origin" (laneTokens "oPos"))) =
      some [("X", (Coord.advance p d offset).vector)] := by
    show readsOf? _ _ _ ([.word "setOutput", .symbol '('] ++
      (callTokens "getValueFromTensorPos_origin" (laneTokens "oPos") ++ [.symbol ')'])) = _
    exact Shader.readsOf?_around (by decide) rfl rfl (by decide) (by decide) (by decide)
      (evalTokens?_laneTokens List.lookup_cons_self)
  rw [runReads?_setOutput (hreads _)]
  rfl

end Operator

end TensorShader
