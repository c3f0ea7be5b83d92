import TensorShader.Proofs.Shader.Function

/-! The function `main` of shader source, and where it reads operands. Its statements are kept as
tokens: they declare coordinates, move a coordinate along a dimension, declare floating-point
numbers, or call a function for its effect, and others are refused. A read is a call of a function
that fetches an element, whatever else stands around it, so none is missed. -/

namespace TensorShader.Shader

/-- The statements that tokens list up to a closing brace, after the tokens of an unfinished one,
the latest first. Braces inside are refused. -/
def statements? : (unfinished : List Token) → List Token → Option (List (List Token))
  | [], .symbol '\x7d' :: _ => some []
  | run, .symbol ';' :: ts => do return run.reverse :: (← statements? [] ts)
  | _, .symbol '\x7b' :: _ => none
  | _, .symbol '\x7d' :: _ => none
  | run, t :: ts => statements? (t :: run) ts
  | _, [] => none

/-- The statements of a function without parameters, whose tokens start behind its parenthesis. -/
def bodyOfTokens? (ts : List Token) : Option (List (List Token)) := do
  match ← Function.params? ts with
  | ([], .symbol '\x7b' :: ts) => statements? [] ts
  | _ => none

/-- The statements of the function `main` that a text defines. -/
def main? (text : String) : Option (List (List Token)) := do
  bodyOfTokens? (tokens (← Function.after? ("main".toList ++ ['(']) text.toList))

/-- The tokens before the parenthesis that closes an open one, `depth` others being open inside. -/
def arguments? : (depth : Nat) → List Token → Option (List Token)
  | 0, .symbol ')' :: _ => some []
  | depth + 1, .symbol ')' :: ts => (.symbol ')' :: ·) <$> arguments? depth ts
  | depth, .symbol '(' :: ts => (.symbol '(' :: ·) <$> arguments? (depth + 1) ts
  | depth, t :: ts => (t :: ·) <$> arguments? depth ts
  | _, [] => none

def callArguments? : List Token → Option (List Token)
  | .symbol '(' :: ts => arguments? 0 ts
  | _ => none

variable (calls : String → List Int → Option (List Int)) (fetches : List (String × String))

def evalTokens? (scope : List (String × List Int)) (ts : List Token) : Option (List Int) := do
  (← Expr.ofTokens? [] none ts).eval calls scope

/-- The operands that tokens read, and where. `fetches` gives the operands of the functions that
fetch elements. Each of these that is mentioned has to be called with arguments that have a
value. -/
def readsOf? (scope : List (String × List Int)) : List Token → Option (List (String × List Int))
  | .word f :: ts =>
    match fetches.lookup f with
    | some operand => do
      let position ← evalTokens? calls scope (← callArguments? ts)
      return (operand, position) :: (← readsOf? scope ts)
    | none => readsOf? scope ts
  | _ :: ts => readsOf? scope ts
  | [] => some []

/-- The component that a single letter selects. -/
def lanePosition? (letters : String) : Option Nat :=
  match letters.toList with
  | [letter] => Expr.position? letter
  | _ => none

/-- The integer variables in scope after a statement. -/
def scopeAfter? (scope : List (String × List Int)) :
    List Token → Option (List (String × List Int))
  | .word "ivec4" :: .word x :: .symbol '=' :: ts => do
    return (x, ← evalTokens? calls scope ts) :: scope
  | .word "float" :: .word x :: .symbol '=' :: _ => some (scope.filter fun v => v.1 ≠ x)
  | .word x :: .symbol '.' :: .word letter :: .symbol '+' :: .symbol '=' :: ts => do
    let components ← scope.lookup x
    let i ← lanePosition? letter
    match components[i]?, ← evalTokens? calls scope ts with
    | some v, [step] => some ((x, components.set i (v + step)) :: scope)
    | _, _ => none
  | .word _ :: .symbol '(' :: _ => some scope
  | _ => none

/-- The operands that statements read, and where. -/
def runReads? : (scope : List (String × List Int)) → List (List Token) →
    Option (List (String × List Int))
  | _, [] => some []
  | scope, s :: rest => do
    let here ← readsOf? calls fetches scope s
    return here ++ (← runReads? (← scopeAfter? calls scope s) rest)

/-- The operands that the function `main` of a text reads, and where, in a scope of global
variables. -/
def mainReads? (globals : List (String × List Int)) (text : String) :
    Option (List (String × List Int)) := do
  runReads? calls fetches globals (← main? text)

/-- Whether a token may stand inside a statement. -/
def Token.isInner (t : Token) : Bool :=
  t ≠ .symbol ';' && t ≠ .symbol '\x7b' && t ≠ .symbol '\x7d'

/-- Whether a token is no function that fetches elements. -/
def Token.isSilent (fetches : List (String × String)) : Token → Bool
  | .word f => (fetches.lookup f).isNone
  | _ => true

def callTokens (f : String) (args : List Token) : List Token :=
  .word f :: .symbol '(' :: (args ++ [.symbol ')'])

/-- The tokens of statements up to the closing brace. -/
def blockTokens (ss : List (List Token)) : List Token :=
  ss.flatMap (· ++ [.symbol ';']) ++ [.symbol '\x7d']

variable {calls fetches} {scope : List (String × List Int)} {ss rest : List (List Token)}
  {s ts us : List Token}

theorem statements?_append (hs : s.all Token.isInner = true) (run ts : List Token) :
    statements? run (s ++ ts) = statements? (s.reverse ++ run) ts := by
  induction s generalizing run with
  | nil => rfl
  | cons t s ih =>
    rw [List.all_cons, Bool.and_eq_true] at hs
    obtain ⟨ht, hs⟩ := hs
    obtain ⟨⟨hsemicolon, hopen⟩, hclose⟩ : (t ≠ .symbol ';' ∧ t ≠ .symbol '\x7b') ∧
        t ≠ .symbol '\x7d' := by
      simpa [Token.isInner] using ht
    rw [List.cons_append, statements?.eq_5 _ _ _ hsemicolon hopen hclose fun _ => hclose,
      ih hs, List.reverse_cons, List.append_assoc]
    rfl

theorem statements?_blockTokens (hss : ∀ s ∈ ss, s.all Token.isInner = true) :
    statements? [] (blockTokens ss) = some ss := by
  induction ss with
  | nil => rfl
  | cons s ss ih =>
    obtain ⟨hs, hss⟩ := List.forall_mem_cons.1 hss
    have hblock : blockTokens (s :: ss) = s ++ .symbol ';' :: blockTokens ss := by
      simp [blockTokens]
    rw [hblock, statements?_append hs, statements?, ih hss, List.append_nil, List.reverse_reverse]
    rfl

theorem main?_eq {front text : String} (hfront : 'm' ∉ front.toList)
    (htokens : tokens text.toList = .symbol ')' :: .symbol '\x7b' :: blockTokens ss)
    (hss : ∀ s ∈ ss, s.all Token.isInner = true) :
    main? (front ++ ("main" ++ ("(" ++ text))) = some ss := by
  rw [main?, Function.after?_name (c := 'm') (by decide) hfront, ← statements?_blockTokens hss]
  show bodyOfTokens? (tokens text.toList) = _
  rw [htokens]
  rfl

theorem arguments?_append (hopen : .symbol '(' ∉ s) (hclose : .symbol ')' ∉ s) (ts : List Token) :
    arguments? 0 (s ++ .symbol ')' :: ts) = some s := by
  induction s with
  | nil => rfl
  | cons t s ih =>
    obtain ⟨hto, hopen⟩ := not_or.1 (mt List.mem_cons.2 hopen)
    obtain ⟨htc, hclose⟩ := not_or.1 (mt List.mem_cons.2 hclose)
    have hstep : arguments? 0 (t :: (s ++ .symbol ')' :: ts)) =
        (t :: ·) <$> arguments? 0 (s ++ .symbol ')' :: ts) :=
      arguments?.eq_4 _ _ _ (fun h => hto h.symm) (fun _ h => htc h.symm) fun _ h => nomatch h
    rw [List.cons_append, hstep, ih hopen hclose]
    rfl

theorem readsOf?_append (hs : s.all (Token.isSilent fetches) = true) (ts : List Token) :
    readsOf? calls fetches scope (s ++ ts) = readsOf? calls fetches scope ts := by
  induction s with
  | nil => rfl
  | cons t s ih =>
    rw [List.all_cons, Bool.and_eq_true] at hs
    obtain ⟨ht, hs⟩ := hs
    cases t with
    | word f =>
      have hf : fetches.lookup f = none := Option.isNone_iff_eq_none.1 ht
      rw [List.cons_append, readsOf?, hf, ih hs]
    | number n =>
      rw [List.cons_append, readsOf?, ih hs]
      exact fun f h => Token.noConfusion h
    | symbol c =>
      rw [List.cons_append, readsOf?, ih hs]
      exact fun f h => Token.noConfusion h

theorem readsOf?_silent (hs : s.all (Token.isSilent fetches) = true) :
    readsOf? calls fetches scope s = some [] := by
  rw [← List.append_nil s, readsOf?_append hs]
  rfl

theorem readsOf?_callTokens {f operand : String} {position : List Int}
    (hf : fetches.lookup f = some operand) (hsilent : s.all (Token.isSilent fetches) = true)
    (hopen : .symbol '(' ∉ s) (hclose : .symbol ')' ∉ s)
    (hposition : evalTokens? calls scope s = some position) (ts : List Token) :
    readsOf? calls fetches scope (callTokens f s ++ ts) =
      ((operand, position) :: ·) <$> readsOf? calls fetches scope ts := by
  have harguments : callArguments? (.symbol '(' :: (s ++ [.symbol ')'] ++ ts)) = some s := by
    rw [List.append_assoc]
    exact arguments?_append hopen hclose ts
  have hrest : readsOf? calls fetches scope (.symbol '(' :: (s ++ [.symbol ')'] ++ ts)) =
      readsOf? calls fetches scope ts := by
    have hall : (.symbol '(' :: (s ++ [.symbol ')'])).all (Token.isSilent fetches) = true := by
      simp [hsilent, Token.isSilent]
    exact readsOf?_append hall ts
  rw [callTokens, List.cons_append, List.cons_append, readsOf?, hf]
  simp only [harguments, hrest, hposition, bind, Option.bind]
  cases readsOf? calls fetches scope ts <;> rfl

theorem readsOf?_around {f operand : String} {position : List Int} {front back : List Token}
    (hfront : front.all (Token.isSilent fetches) = true)
    (hback : back.all (Token.isSilent fetches) = true) (hf : fetches.lookup f = some operand)
    (hsilent : s.all (Token.isSilent fetches) = true) (hopen : .symbol '(' ∉ s)
    (hclose : .symbol ')' ∉ s) (hposition : evalTokens? calls scope s = some position) :
    readsOf? calls fetches scope (front ++ (callTokens f s ++ back)) =
      some [(operand, position)] := by
  rw [readsOf?_append hfront, readsOf?_callTokens hf hsilent hopen hclose hposition,
    readsOf?_silent hback]
  rfl

/-- What the first statement reads comes before what the others read in the scope after it. -/
theorem runReads?_cons {here : List (String × List Int)} {scope' : List (String × List Int)}
    (hreads : readsOf? calls fetches scope s = some here)
    (hscope : scopeAfter? calls scope s = some scope') :
    runReads? calls fetches scope (s :: rest) =
      (here ++ ·) <$> runReads? calls fetches scope' rest := by
  rw [runReads?, hreads, hscope]
  cases h : runReads? calls fetches scope' rest <;> simp [h]

theorem mainReads?_eq {globals : List (String × List Int)} {text : String}
    (h : main? text = some ss) :
    mainReads? calls fetches globals text = runReads? calls fetches globals ss := by
  rw [mainReads?, h]
  rfl

end TensorShader.Shader
