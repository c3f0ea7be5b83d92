import TensorShader.Template.Render

/-! What a template reads of a map in its context. A template that mentions the map only to ask it
for some of its names writes the same text, or fails with the same fault, in contexts in which the
map has the same values under these names and which agree on everything else. -/

namespace TensorShader.Template

/-- The expression is the variable of the given name. -/
def Expr.isVariable (root : String) : Expr → Bool
  | .variable name _ => name = root
  | _ => false

/-- The variable `root` occurs in the expression only where one of the names is asked of it. -/
def Expr.asksOnly (root : String) (names : List String) : Expr → Bool
  | .variable name _ => name ≠ root
  | .literal _ _ => true
  | .attribute e name => if e.isVariable root then name ∈ names else e.asksOnly root names
  | .item e _ _ | .filter e _ | .opposite e _ | .complement e => e.asksOnly root names
  | .binary _ a b => a.asksOnly root names && b.asksOnly root names

/-- The variable `root` occurs in the template only where one of the names is asked of it. -/
def asksOnly (root : String) (names : List String) : Template → Bool
  | .done => true
  | .text _ rest => rest.asksOnly root names
  | .output e rest => e.asksOnly root names && rest.asksOnly root names
  | .choice test yes no rest =>
    test.asksOnly root names && yes.asksOnly root names && no.asksOnly root names &&
      rest.asksOnly root names

/-- Two contexts agree on all names but `root`, and on the given names of what `root` stands for. -/
structure AgreeOn (root : String) (names : List String) (ctx ctx' : Value) : Prop where
  others : ∀ name, name ≠ root → ctx.resolve name = ctx'.resolve name
  asked : ∀ name ∈ names,
    attributeOf (ctx.resolve root) name = attributeOf (ctx'.resolve root) name

variable {root : String} {names : List String} {ctx ctx' : Value}

theorem Expr.eq_variable_of_isVariable :
    {e : Expr} → e.isVariable root = true → ∃ line, e = .variable root line
  | .variable _ line, h => ⟨line, by rw [of_decide_eq_true h]⟩

/-- Agreeing contexts give an expression the same value or the same fault. -/
theorem AgreeOn.eval_eq (h : AgreeOn root names ctx ctx') :
    {e : Expr} → e.asksOnly root names = true → e.eval ctx = e.eval ctx'
  | .variable name _, he => congrArg Except.ok (h.others name (of_decide_eq_true he))
  | .literal _ _, _ => rfl
  | .attribute e name, he => by
    unfold Expr.asksOnly at he
    split at he
    · -- the map itself differs, but not what it has under the name
      rename_i hroot
      obtain ⟨line, rfl⟩ := Expr.eq_variable_of_isVariable hroot
      exact congrArg (located line) (h.asked name (of_decide_eq_true he))
    · rw [Expr.eval, Expr.eval, h.eval_eq he]
  | .item e _ _, he | .filter e _, he | .opposite e _, he | .complement e, he => by
    have hsame : e.eval ctx = e.eval ctx' := h.eval_eq he
    rw [Expr.eval, Expr.eval, hsame]
  | .binary op a b, he => by
    obtain ⟨ha, hb⟩ := Bool.and_eq_true_iff.mp he
    cases op <;> simp only [Expr.eval, h.eval_eq ha, h.eval_eq hb]

/-- Agreeing contexts give a template the same text or the same fault. -/
theorem AgreeOn.fill_eq (h : AgreeOn root names ctx ctx') {t : Template}
    (ht : t.asksOnly root names = true) : t.fill ctx = t.fill ctx' := by
  induction t with
  | done => rfl
  | text s rest ih => rw [fill, fill, ih ht]
  | output e rest ih =>
    obtain ⟨he, hrest⟩ := Bool.and_eq_true_iff.mp ht
    rw [fill, fill, h.eval_eq he, ih hrest]
  | choice test yes no rest ihyes ihno ihrest =>
    obtain ⟨ht, hrest⟩ := Bool.and_eq_true_iff.mp ht
    obtain ⟨ht, hno⟩ := Bool.and_eq_true_iff.mp ht
    obtain ⟨htest, hyes⟩ := Bool.and_eq_true_iff.mp ht
    rw [fill, fill, h.eval_eq htest, ihyes hyes, ihno hno, ihrest hrest]

end TensorShader.Template
