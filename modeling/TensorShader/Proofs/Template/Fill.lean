import TensorShader.Proofs.Except
import TensorShader.Text.Lines
import TensorShader.Texture.Value
import TensorShader.Template.Render

/-! Templates that are written in lines, and what templates write: a text, the value of an
expression, and an extent less one. -/

namespace TensorShader

theorem toList_lines (ls : List String) : (lines ls).toList = ls.flatMap (·.toList ++ ['\n']) := by
  induction ls with
  | nil => rfl
  | cons l ls ih => simp [lines, ih]

namespace Template

/-- The template that the characters of lines write. -/
def parseLines (ls : List (List Char)) : Except Fault Template :=
  ofSegments [] [] 1 (scan (.text .nothing 1 []) 1 true
    (dropFinalLineEnd (ls.flatMap (· ++ ['\n']))))

theorem parse_lines (ls : List String) : parse (lines ls) = parseLines (ls.map String.toList) := by
  rw [parse, segments, toList_lines, parseLines, List.flatMap_map]

theorem IntFormat.holds_iff {f : IntFormat} {i : Int} :
    f.holds i = true ↔ f.least ≤ i ∧ i ≤ f.greatest := by
  simp [IntFormat.holds]

/-- An extent less one is a signed number of 64 bits. -/
theorem apply_sub_one {n : Nat} (hlt : n < wordBound) :
    BinaryOp.sub.apply (natValue n) (.int .unsigned64 1) = .ok (.int .signed64 (n - 1)) := by
  unfold wordBound at hlt
  have hn : IntFormat.signed128.holds n = true := by
    rw [IntFormat.holds_iff, IntFormat.least, IntFormat.greatest]
    omega
  have hone : IntFormat.signed128.holds 1 = true := by decide
  have hresult : IntFormat.signed64.holds (n - 1) = true := by
    rw [IntFormat.holds_iff, IntFormat.least, IntFormat.greatest]
    omega
  have hnumbers : BinaryOp.sub.apply (natValue n) (.int .unsigned64 1) =
      BinaryOp.sub.onNumbers (natValue n) (.int .unsigned64 1) := rfl
  rw [hnumbers]
  simp [BinaryOp.onNumbers, natValue, Value.number?, Integer.operands?, Integer.signed?, hn, hone,
    BinaryOp.onInts?, Integer.ofInt?, IntFormat.computed, hresult]

variable {ctx : Value} {e : Expr}

theorem fill_text (ctx : Value) (s : String) (rest : Template) :
    (Template.text s rest).fill ctx = (s ++ ·) <$> rest.fill ctx := by
  rw [fill]
  cases rest.fill ctx <;> rfl

theorem fill_output {v : Value} {s : String} (he : e.eval ctx = .ok v) (hs : written v = .ok s)
    (rest : Template) : (Template.output e rest).fill ctx = (s ++ ·) <$> rest.fill ctx := by
  simp only [fill, he, hs, located_ok, bind, Except.bind]
  cases rest.fill ctx <;> rfl

theorem fill_extent {n : Nat} (he : e.eval ctx = .ok (natValue n)) (rest : Template) :
    (Template.output e rest).fill ctx = (toString n ++ ·) <$> rest.fill ctx :=
  fill_output he rfl rest

theorem fill_choice {test : Expr} {v : Value} {b : Bool} (he : test.eval ctx = .ok v)
    (hb : truth v = .ok b) (yes no rest : Template) :
    (Template.choice test yes no rest).fill ctx =
      (bif b then yes else no).fill ctx >>= fun s => (s ++ ·) <$> rest.fill ctx := by
  simp only [fill, he, hb, located_ok, bind, Except.bind]
  cases b <;> rfl

/-- Where a template succeeds, so do its parts. -/
theorem fill_text_eq_ok {s t : String} {rest : Template}
    (h : (Template.text s rest).fill ctx = .ok t) : ∃ u, rest.fill ctx = .ok u := by
  rw [fill_text] at h
  obtain ⟨u, hu, -⟩ := map_eq_ok_iff.1 h
  exact ⟨u, hu⟩

theorem fill_output_eq_ok {t : String} {rest : Template}
    (h : (Template.output e rest).fill ctx = .ok t) :
    (∃ v, e.eval ctx = .ok v) ∧ ∃ u, rest.fill ctx = .ok u := by
  rw [fill] at h
  obtain ⟨v, hv, hwritten⟩ := bind_eq_ok_iff.1 h
  obtain ⟨s, -, hrest⟩ := bind_eq_ok_iff.1 hwritten
  obtain ⟨u, hu, -⟩ := bind_eq_ok_iff.1 hrest
  exact ⟨⟨v, hv⟩, u, hu⟩

/-- A template that writes an extent less one before the rest. -/
def extentBound (extent : Expr) (line : Nat) (rest : Template) : Template :=
  .output (.binary .sub extent (.literal (.number (.int ⟨1, .unsigned64⟩)) line)) rest

theorem eval_sub_one {n : Nat} (he : e.eval ctx = .ok (natValue n)) (hlt : n < wordBound)
    (line : Nat) :
    (Expr.binary .sub e (.literal (.number (.int ⟨1, .unsigned64⟩)) line)).eval ctx =
      .ok (.int .signed64 (n - 1)) := by
  simp only [Expr.eval, he, Literal.value, apply_sub_one hlt, located_ok, bind, Except.bind]

theorem fill_extentBound {n : Nat} (he : e.eval ctx = .ok (natValue n)) (hlt : n < wordBound)
    (line : Nat) (rest : Template) :
    (extentBound e line rest).fill ctx = (toString ((n : Int) - 1) ++ ·) <$> rest.fill ctx :=
  fill_output (eval_sub_one he hlt line) rfl rest

end Template

end TensorShader
