import TensorShader.Proofs.Number.FloatLiteral
import TensorShader.Proofs.Template.Fill

/-! What a template writes, in pieces: its own text, the texts of values, and the numbers that are
folded in. Joined, the pieces are the text that the template writes. -/

namespace TensorShader.Template

/-- A number that a template writes. -/
inductive Folded where
  /-- An integer, as it is. -/
  | int (i : Int)
  /-- A floating-point number, as it is. -/
  | float (x : Binary64)
  /-- A number that the filter for literals converts. -/
  | literal (x : Binary64)
deriving DecidableEq, Repr

namespace Folded

def nat (n : Nat) : Folded := .int n

def text : Folded → String
  | .int i => toString i
  | .float x => x.text .positional
  | .literal x => floatLiteral x

/-- The integers of a shader have 32 bits with a sign. -/
def intBound : Int := 2147483648

/-- A number that stands in shader source as a literal: an integer that a shader has, or a text that
is a literal of floating-point type. -/
def Legal : Folded → Prop
  | .int i => -intBound ≤ i ∧ i < intBound
  | .float x => IsFloatLiteral (x.text .positional)
  | .literal x => IsFloatLiteral (floatLiteral x)

theorem legal_nat_iff {n : Nat} : (nat n).Legal ↔ (n : Int) < intBound := by
  unfold nat Legal intBound
  omega

theorem legal_literal_iff {x : Binary64} : (literal x).Legal ↔ x.isFinite = true := by
  rw [Legal, floatLiteral_eq]
  exact Binary64.isFloatLiteral_text_iff

end Folded

/-- A piece of what a template writes: a number, or any other text. -/
inductive Piece where
  | text (s : String)
  | number (n : Folded)
deriving DecidableEq, Repr

/-- The floating-point number that an expression converts to a literal. -/
def Expr.converted? (ctx : Value) : Expr → Option Binary64
  | .filter e _ => (e.eval ctx).toOption.bind floatArgument?
  | _ => none

namespace Piece

def source : Piece → String
  | .text s => s
  | .number n => n.text

/-- The text that pieces make up. -/
def join : List Piece → String
  | [] => ""
  | p :: ps => p.source ++ join ps

/-- The numbers among pieces. -/
def numbers : List Piece → List Folded
  | [] => []
  | .text _ :: ps => numbers ps
  | .number n :: ps => n :: numbers ps

theorem join_append (ps qs : List Piece) : join (ps ++ qs) = join ps ++ join qs := by
  induction ps with
  | nil => simp [join]
  | cons p ps ih => simp [join, ih, String.append_assoc]

theorem numbers_append (ps qs : List Piece) : numbers (ps ++ qs) = numbers ps ++ numbers qs := by
  induction ps with
  | nil => rfl
  | cons p ps ih => cases p <;> simp [numbers, ih]

/-- What an expression with a value writes. -/
def ofValue (ctx : Value) (e : Expr) (v : Value) : Piece :=
  match e.converted? ctx, v with
  | some x, _ => .number (.literal x)
  | none, .number (.int i) => .number (.int i.value)
  | none, .number (.float x) => .number (.float x)
  | none, v => .text v.text

theorem source_ofValue {ctx v : Value} {e : Expr} (he : e.eval ctx = .ok v) :
    (ofValue ctx e v).source = v.text := by
  unfold ofValue
  split
  · rename_i x hx
    -- only a filter converts, and there is only one
    cases e with
    | filter e name =>
      obtain ⟨w, hw, hfilter⟩ := bind_eq_ok_iff.1 he
      have hargument : floatArgument? w = some x := by
        rw [Expr.converted?, hw] at hx
        exact hx
      have happly := mapError_eq_ok_iff.1 hfilter
      unfold applyFilter at happly
      rw [hargument] at happly
      split at happly
      · obtain rfl := Except.ok.inj happly
        rfl
      · cases happly
    | _ => cases hx
  · rfl
  · rfl
  · rfl

end Piece

/-- The pieces that a template writes in a context. -/
def pieces (ctx : Value) : Template → Except Fault (List Piece)
  | .done => .ok []
  | .text s rest => do return .text s :: (← rest.pieces ctx)
  | .output e rest => do
    let v ← e.eval ctx
    let _ ← located e.line (written v)
    return .ofValue ctx e v :: (← rest.pieces ctx)
  | .choice test yes no rest => do
    let ps ← if ← located test.line (truth (← test.eval ctx)) then yes.pieces ctx
      else no.pieces ctx
    return ps ++ (← rest.pieces ctx)

theorem pieces_choice {ctx v : Value} {test : Expr} {b : Bool} (he : test.eval ctx = .ok v)
    (hb : truth v = .ok b) (yes no rest : Template) :
    (Template.choice test yes no rest).pieces ctx =
      (bif b then yes else no).pieces ctx >>= fun ps => (ps ++ ·) <$> rest.pieces ctx := by
  simp only [pieces, he, hb, located_ok, bind, Except.bind]
  cases b <;> rfl

theorem pieces_text (ctx : Value) (s : String) (rest : Template) :
    (Template.text s rest).pieces ctx = (.text s :: ·) <$> rest.pieces ctx := by
  rw [pieces]
  cases rest.pieces ctx <;> rfl

theorem pieces_output {ctx v : Value} {e : Expr} {s : String} (he : e.eval ctx = .ok v)
    (hs : written v = .ok s) (rest : Template) :
    (Template.output e rest).pieces ctx = (Piece.ofValue ctx e v :: ·) <$> rest.pieces ctx := by
  simp only [pieces, he, hs, located_ok, bind, Except.bind]
  cases rest.pieces ctx <;> rfl

theorem pieces_extentBound {ctx : Value} {e : Expr} {n : Nat} (he : e.eval ctx = .ok (natValue n))
    (hlt : n < wordBound) (line : Nat) (rest : Template) :
    (extentBound e line rest).pieces ctx = (.number (.int (n - 1)) :: ·) <$> rest.pieces ctx :=
  pieces_output (eval_sub_one he hlt line) rfl rest

theorem written_eq_ok {v : Value} {s : String} (h : written v = .ok s) : s = v.text := by
  cases v <;> cases h <;> rfl

/-- The pieces of a template make up its text. -/
theorem fill_eq (ctx : Value) (t : Template) : t.fill ctx = Piece.join <$> t.pieces ctx := by
  induction t with
  | done => rfl
  | text s rest ih =>
    rw [fill, pieces, ih]
    cases rest.pieces ctx <;> rfl
  | output e rest ih =>
    rw [fill, pieces, ih]
    cases he : e.eval ctx with
    | error f => rfl
    | ok v =>
      cases hs : written v with
      | error c => simp only [bind, Except.bind, hs, located_error]; rfl
      | ok s =>
        obtain rfl := written_eq_ok hs
        simp only [bind, Except.bind, hs, located_ok, ← Piece.source_ofValue he]
        cases rest.pieces ctx <;> rfl
  | choice test yes no rest ihyes ihno ih =>
    have hpart (b : Bool) : (bif b then yes else no).fill ctx =
        Piece.join <$> (bif b then yes else no).pieces ctx := by
      cases b
      · exact ihno
      · exact ihyes
    cases he : test.eval ctx with
    | error f => simp only [fill, pieces, he, bind, Except.bind]; rfl
    | ok v =>
      cases hb : truth v with
      | error c => simp only [fill, pieces, he, hb, located_error, bind, Except.bind]; rfl
      | ok b =>
        rw [fill_choice he hb, hpart, ih, pieces_choice he hb]
        cases (bif b then yes else no).pieces ctx with
        | error f => rfl
        | ok ps =>
          cases rest.pieces ctx with
          | error f => rfl
          | ok qs => exact congrArg _ (Piece.join_append ps qs).symm

end TensorShader.Template
