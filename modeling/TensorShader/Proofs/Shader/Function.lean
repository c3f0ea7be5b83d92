import TensorShader.Proofs.Shader.Expr

/-! Functions of shader source: parameters, and a body that declares variables and returns a value.
A function is read from a text that defines it, whatever else the text holds. Types are not
checked. -/

namespace TensorShader.Shader

/-- A statement of a function. -/
inductive Statement where
  /-- A variable, declared with its value. -/
  | declare (name : String) (e : Expr)
  /-- The result. -/
  | result (e : Expr)
deriving DecidableEq, Repr

/-- The statement of the tokens before its semicolon. -/
def Statement.ofTokens? : List Token → Option Statement
  | .word "return" :: ts => (Expr.ofTokens? [] none ts).map .result
  | .word _ :: .word x :: .symbol '=' :: ts => (Expr.ofTokens? [] none ts).map (.declare x)
  | _ => none

/-- A function: the names of its parameters, and its statements. -/
structure Function where
  params : List String
  body : List Statement
deriving DecidableEq, Repr

namespace Function

/-- The parameters that tokens list up to a closing parenthesis, and the tokens after it. -/
def params? : List Token → Option (List String × List Token)
  | .symbol ')' :: ts => some ([], ts)
  | .word _ :: .word x :: .symbol ')' :: ts => some ([x], ts)
  | .word _ :: .word x :: .symbol ',' :: ts => do
    let (xs, ts) ← params? ts
    return (x :: xs, ts)
  | _ => none

/-- The statements that tokens list up to a closing brace, after the tokens of an unfinished one,
the latest first. -/
def body? : (unfinished : List Token) → List Token → Option (List Statement)
  | [], .symbol '\x7d' :: _ => some []
  | run, .symbol ';' :: ts => do
    let s ← Statement.ofTokens? run.reverse
    return s :: (← body? [] ts)
  | run, t :: ts => body? (t :: run) ts
  | _, [] => none

/-- What follows the first place where characters occur side by side in others. -/
def after? (cs : List Char) : List Char → Option (List Char)
  | [] => if cs.isEmpty then some [] else none
  | d :: ds => if cs.isPrefixOf (d :: ds) then some ((d :: ds).drop cs.length) else after? cs ds

/-- The function of tokens from its parameters on. -/
def ofTokens? (ts : List Token) : Option Function := do
  match ← params? ts with
  | (params, .symbol '\x7b' :: ts) => return ⟨params, ← body? [] ts⟩
  | _ => none

/-- The function that a text defines under a name. -/
def read? (name text : String) : Option Function := do
  ofTokens? (tokens (← after? (name.toList ++ ['(']) text.toList))

/-- Characters are found after others that do not have the first of them. -/
theorem after?_append {c : Char} {cs : List Char} (rest : List Char) :
    {front : List Char} → c ∉ front →
      after? (c :: cs) (front ++ (c :: cs ++ rest)) = some rest
  | [], _ => by
    have hprefix : (c :: cs).isPrefixOf (c :: cs ++ rest) = true :=
      List.isPrefixOf_iff_prefix.2 (List.prefix_append _ _)
    rw [List.nil_append, List.cons_append] at *
    rw [after?, if_pos hprefix]
    simp
  | d :: front, hc => by
    have hne : c ≠ d := fun h => hc (h ▸ List.mem_cons_self)
    have hnot : ¬ (c :: cs).isPrefixOf (d :: (front ++ (c :: cs ++ rest))) = true := by
      simp [List.isPrefixOf, hne]
    rw [List.cons_append, after?, if_neg hnot]
    exact after?_append rest fun h => hc (List.mem_cons_of_mem d h)

/-- Characters are found only where their first one is. -/
theorem mem_of_after? {c : Char} {cs ds rest : List Char}
    (h : after? (c :: cs) ds = some rest) : c ∈ ds := by
  induction ds with
  | nil => cases h
  | cons d ds ih =>
    rw [after?] at h
    split at h
    · rename_i hprefix
      exact (List.isPrefixOf_iff_prefix.1 hprefix).subset List.mem_cons_self
    · exact List.mem_cons_of_mem d (ih h)

/-- The parameters of a definition are found behind its name, wherever it starts. -/
theorem after?_name {front name : String} {c : Char} (hname : name.toList.head? = some c)
    (hc : c ∉ front.toList) (text : String) :
    after? (name.toList ++ ['(']) (front ++ (name ++ ("(" ++ text))).toList =
      some text.toList := by
  obtain ⟨tail, htail⟩ := List.head?_eq_some_iff.1 hname
  simp only [String.toList_append, String.reduceToList, htail, List.cons_append]
  have h : after? (c :: (tail ++ ['('])) (front.toList ++ (c :: (tail ++ ['(']) ++ text.toList)) =
      some text.toList := after?_append text.toList hc
  simpa using h

/-- A function is read from its parameters on, wherever its definition starts. -/
theorem read?_append {front name : String} {c : Char} (hname : name.toList.head? = some c)
    (hc : c ∉ front.toList) (text : String) :
    read? name (front ++ (name ++ ("(" ++ text))) = ofTokens? (tokens text.toList) := by
  rw [read?, after?_name hname hc]
  rfl

/-- The result of statements in a scope. -/
def run (calls : String → List Int → Option (List Int)) :
    (scope : List (String × List Int)) → List Statement → Option (List Int)
  | scope, .declare x e :: rest => do run calls ((x, ← e.eval calls scope) :: scope) rest
  | scope, .result e :: _ => e.eval calls scope
  | _, [] => none

/-- The value of a function of scalars, in a scope of global variables. -/
def call (f : Function) (calls : String → List Int → Option (List Int))
    (globals : List (String × List Int)) (args : List Int) : Option (List Int) :=
  if args.length = f.params.length then
    run calls (f.params.zip (args.map ([·])) ++ globals) f.body
  else none

end Function

end TensorShader.Shader
