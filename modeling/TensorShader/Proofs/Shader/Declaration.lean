import TensorShader.Proofs.Shader.Main

/-! Declarations at the top level of shader source: global variables, which end with a semicolon,
and functions, which end with a brace. They are kept as their tokens, so nothing is lost when a
source is cut into its declarations. A declaration here declares one name. -/

namespace TensorShader.Shader

/-- How many braces are open after a token, if `depth` are open before it. -/
def Token.depthAfter (depth : Nat) : Token → Nat
  | .symbol '\x7b' => depth + 1
  | .symbol '\x7d' => depth - 1
  | _ => depth

/-- Whether a token ends a declaration of which `depth` braces are open. -/
def Token.isEnd (depth : Nat) (t : Token) : Bool :=
  t = .symbol ';' && depth = 0 || t = .symbol '\x7d' && depth ≤ 1

/-- The declarations of tokens, after the tokens of an unfinished one, the latest first, of which
`depth` braces are open. -/
def cut : (depth : Nat) → (unfinished : List Token) → List Token → List (List Token)
  | _, run, [] => if run.isEmpty then [] else [run.reverse]
  | depth, run, t :: ts =>
    if t.isEnd depth then (t :: run).reverse :: cut 0 [] ts
    else cut (t.depthAfter depth) (t :: run) ts

def declarations (text : String) : List (List Token) := cut 0 [] (tokens text.toList)

/-- The name that a declaration declares stands before its first symbol. -/
def declaredName? : List Token → Option String
  | .word x :: .symbol _ :: _ => some x
  | .word _ :: ts => declaredName? ts
  | _ => none

def declaredNames (text : String) : List String := (declarations text).filterMap declaredName?

def isFunction (d : List Token) : Bool := d.getLast? = some (.symbol '\x7d')

/-- The tokens of a function from its first brace on. -/
def bodyTokens (d : List Token) : List Token := d.dropWhile (· ≠ .symbol '\x7b')

/-- The functions that are called: the words before a parenthesis. -/
def called : List Token → List String
  | .word f :: .symbol '(' :: ts => f :: called ts
  | _ :: ts => called ts
  | [] => []

/-- The arguments of a function wherever it is mentioned, or `none` where that is not a call. -/
def argumentsOf (f : String) : List Token → List (Option (List Token))
  | t :: ts => if t = .word f then callArguments? ts :: argumentsOf f ts else argumentsOf f ts
  | [] => []

def Token.word? : Token → Option String
  | .word w => some w
  | _ => none

def words (ts : List Token) : List String := ts.filterMap Token.word?

def uniformTokens (type x : String) : List Token :=
  [.word "uniform", .word type, .word x, .symbol ';']

def functionTokens (type f : String) (params : List Token) (ss : List (List Token)) : List Token :=
  .word type :: .word f :: .symbol '(' ::
    (params ++ .symbol ')' :: .symbol '\x7b' :: blockTokens ss)

/-- Whatever follows, the tokens are cut off as a declaration. -/
def IsDeclaration (d : List Token) : Prop := ∀ ts, cut 0 [] (d ++ ts) = d :: cut 0 [] ts

/-- A text consists of the given declarations. -/
structure Declares (text : String) (ds : List (List Token)) : Prop where
  tokens_eq : tokens text.toList = ds.flatten
  separate : ∀ d ∈ ds, IsDeclaration d

variable {depth : Nat} {run s ts params : List Token} {ss ds es : List (List Token)}
  {text other f w : String}

/-- Every token of a source is in one of its declarations. -/
theorem flatten_cut (depth : Nat) (run ts : List Token) :
    (cut depth run ts).flatten = run.reverse ++ ts := by
  induction ts generalizing depth run with
  | nil =>
    unfold cut
    cases run <;> simp
  | cons t ts ih =>
    rw [cut]
    split
    · simp [ih]
    · simp [ih]

theorem flatten_declarations (text : String) :
    (declarations text).flatten = tokens text.toList := flatten_cut 0 [] _

theorem mem_words : w ∈ words ts ↔ .word w ∈ ts := by
  rw [words, List.mem_filterMap]
  constructor
  · rintro ⟨t, ht, hw⟩
    cases t with
    | word v => exact Option.some.inj hw ▸ ht
    | number n => cases hw
    | symbol c => cases hw
  · exact fun h => ⟨_, h, rfl⟩

theorem words_append (s ts : List Token) : words (s ++ ts) = words s ++ words ts :=
  List.filterMap_append

theorem words_intTokens (i : Int) : words (intTokens i) = [] := by
  cases i <;> rfl

theorem words_functionTokens (type f : String) (params : List Token) (ss : List (List Token)) :
    words (functionTokens type f params ss) = type :: f :: words (params ++ blockTokens ss) := by
  show type :: f :: words (params ++ .symbol ')' :: .symbol '\x7b' :: blockTokens ss) = _
  rw [words_append, words_append]
  rfl

theorem isFunction_functionTokens (type f : String) (params : List Token)
    (ss : List (List Token)) : isFunction (functionTokens type f params ss) = true := by
  have hlast : functionTokens type f params ss =
      (.word type :: .word f :: .symbol '(' :: (params ++ .symbol ')' :: .symbol '\x7b' ::
        ss.flatMap (· ++ [.symbol ';']))) ++ [.symbol '\x7d'] := by
    simp [functionTokens, Shader.blockTokens]
  rw [isFunction, hlast, List.getLast?_append]
  rfl

theorem mem_of_declaredName? {d : List Token} (h : declaredName? d = some w) : .word w ∈ d := by
  induction d with
  | nil => cases h
  | cons t d ih =>
    unfold declaredName? at h
    split at h
    · rename_i heq
      obtain ⟨rfl, -⟩ := List.cons.inj heq
      exact Option.some.inj h ▸ List.mem_cons_self
    · rename_i heq
      obtain ⟨-, rfl⟩ := List.cons.inj heq
      exact List.mem_cons_of_mem t (ih h)
    · cases h

/-- Tokens without braces stay in a declaration, and semicolons do so inside of a function. -/
theorem cut_append (hs : ∀ t ∈ s, t ≠ .symbol '\x7b' ∧ t ≠ .symbol '\x7d')
    (hend : depth = 0 → .symbol ';' ∉ s) (run ts : List Token) :
    cut depth run (s ++ ts) = cut depth (s.reverse ++ run) ts := by
  induction s generalizing run with
  | nil => rfl
  | cons t s ih =>
    obtain ⟨⟨hopen, hclose⟩, hs⟩ := List.forall_mem_cons.1 hs
    have hstay : t.isEnd depth = false := by
      simp only [Token.isEnd, hclose, decide_false, Bool.false_and, Bool.or_false,
        Bool.and_eq_false_iff, decide_eq_false_iff_not]
      by_cases hdepth : depth = 0
      · exact .inl fun h => hend hdepth (h ▸ List.mem_cons_self)
      · exact .inr hdepth
    have hdepth : t.depthAfter depth = depth := by
      unfold Token.depthAfter
      split
      · exact absurd rfl hopen
      · exact absurd rfl hclose
      · rfl
    rw [List.cons_append, cut, hstay, if_neg Bool.false_ne_true, hdepth,
      ih hs fun h hmem => hend h (List.mem_cons_of_mem t hmem), List.reverse_cons,
      List.append_assoc]
    rfl

theorem ne_of_isInner (hs : s.all Token.isInner = true) :
    (∀ t ∈ s, t ≠ .symbol '\x7b' ∧ t ≠ .symbol '\x7d') ∧ .symbol ';' ∉ s := by
  have hne : ∀ t ∈ s, t ≠ .symbol ';' ∧ t ≠ .symbol '\x7b' ∧ t ≠ .symbol '\x7d' := fun t ht => by
    simpa [Token.isInner, and_assoc] using List.all_eq_true.1 hs t ht
  exact ⟨fun t ht => (hne t ht).2, fun h => (hne _ h).1 rfl⟩

theorem isDeclaration_variable (hs : s.all Token.isInner = true) :
    IsDeclaration (s ++ [.symbol ';']) := by
  intro ts
  obtain ⟨hbraces, hsemicolon⟩ := ne_of_isInner hs
  rw [List.append_assoc, cut_append hbraces fun _ => hsemicolon]
  show (Token.symbol ';' :: (s.reverse ++ [])).reverse :: cut 0 [] ts = _
  simp

theorem isDeclaration_uniform (type x : String) : IsDeclaration (uniformTokens type x) :=
  isDeclaration_variable (s := [.word "uniform", .word type, .word x]) rfl

theorem isDeclaration_function (type f : String) (hparams : params.all Token.isInner = true)
    (hss : ∀ s ∈ ss, s.all Token.isInner = true) :
    IsDeclaration (functionTokens type f params ss) := by
  intro ts
  have hhead : (.word type :: .word f :: .symbol '(' :: (params ++ [.symbol ')'])).all
      Token.isInner = true := by
    simp [hparams, Token.isInner]
  obtain ⟨hbraces, hsemicolon⟩ := ne_of_isInner hhead
  have hbody : ∀ t ∈ ss.flatMap (· ++ [.symbol ';']), t ≠ .symbol '\x7b' ∧ t ≠ .symbol '\x7d' := by
    intro t ht
    obtain ⟨s, hs, ht⟩ := List.mem_flatMap.1 ht
    rcases List.mem_append.1 ht with ht | ht
    · exact (ne_of_isInner (hss s hs)).1 t ht
    · obtain rfl := List.mem_singleton.1 ht
      decide
  have hsplit : functionTokens type f params ss ++ ts =
      .word type :: .word f :: .symbol '(' :: (params ++ [.symbol ')']) ++ .symbol '\x7b' ::
        (ss.flatMap (· ++ [.symbol ';']) ++ .symbol '\x7d' :: ts) := by
    simp [functionTokens, blockTokens]
  -- one brace is open in the body, so its semicolons do not end the declaration
  rw [hsplit, cut_append hbraces fun _ => hsemicolon, cut, if_neg (by decide)]
  show cut 1 _ _ = _
  rw [cut_append hbody fun h => absurd h Nat.one_ne_zero, cut, if_pos (by decide)]
  simp [functionTokens, blockTokens]

theorem cut_flatten (h : ∀ d ∈ ds, IsDeclaration d) (ts : List Token) :
    cut 0 [] (ds.flatten ++ ts) = ds ++ cut 0 [] ts := by
  induction ds with
  | nil => rfl
  | cons d ds ih =>
    obtain ⟨hd, hds⟩ := List.forall_mem_cons.1 h
    rw [List.flatten_cons, List.append_assoc, hd, ih hds, List.cons_append]

theorem Declares.declarations_eq (h : Declares text ds) : declarations text = ds := by
  have hcut := cut_flatten h.separate []
  rw [List.append_nil] at hcut
  rw [declarations, h.tokens_eq, hcut]
  exact List.append_nil ds

theorem Declares.single (htokens : tokens text.toList = s) (hs : IsDeclaration s) :
    Declares text [s] :=
  ⟨by rw [htokens]; simp, by simpa using hs⟩

theorem tokens_definition {front body : String}
    (hfront : front.toList.getLast?.all (fun c => !Template.isNameChar c) = true) (hf : IsName f) :
    tokens (front ++ (f ++ ("(" ++ body))).toList =
      tokens front.toList ++ .word f :: .symbol '(' :: tokens body.toList := by
  have hparen : tokens ("(" ++ body).toList = .symbol '(' :: tokens body.toList := by
    rw [String.toList_append]
    rfl
  rw [String.toList_append, tokens_append_of_last hfront, String.toList_append (s := f)]
  have hbody : ("(" ++ body).toList = ['('] ++ body.toList := String.toList_append
  rw [hbody, tokens_append_of_head _ (by decide), tokens_name hf, ← hbody, hparen]
  rfl

/-- A text that defines a function behind further declarations. -/
theorem Declares.function {front body type : String}
    (hfront : front.toList.getLast?.all (fun c => !Template.isNameChar c) = true)
    (htype : tokens front.toList = ds.flatten ++ [.word type]) (hds : ∀ d ∈ ds, IsDeclaration d)
    (hf : IsName f)
    (hbody : tokens body.toList = params ++ .symbol ')' :: .symbol '\x7b' :: blockTokens ss)
    (hparams : params.all Token.isInner = true) (hss : ∀ s ∈ ss, s.all Token.isInner = true) :
    Declares (front ++ (f ++ ("(" ++ body))) (ds ++ [functionTokens type f params ss]) := by
  refine ⟨?_, fun d hd => ?_⟩
  · rw [tokens_definition hfront hf, htype, hbody]
    simp [functionTokens]
  · rcases List.mem_append.1 hd with hd | hd
    · exact hds d hd
    · obtain rfl := List.mem_singleton.1 hd
      exact isDeclaration_function type f hparams hss

theorem Declares.definition {front body type : String}
    (hfront : front.toList.getLast?.all (fun c => !Template.isNameChar c) = true)
    (htype : tokens front.toList = [.word type]) (hf : IsName f)
    (hbody : tokens body.toList = params ++ .symbol ')' :: .symbol '\x7b' :: blockTokens ss)
    (hparams : params.all Token.isInner = true) (hss : ∀ s ∈ ss, s.all Token.isInner = true) :
    Declares (front ++ (f ++ ("(" ++ body))) [functionTokens type f params ss] := by
  have h : Declares (front ++ (f ++ ("(" ++ body))) ([] ++ [functionTokens type f params ss]) :=
    .function hfront htype (fun _ hd => nomatch hd) hf hbody hparams hss
  exact h

theorem argumentsOf_of_not_mem (h : f ∉ words ts) : argumentsOf f ts = [] := by
  induction ts with
  | nil => rfl
  | cons t ts ih =>
    rw [mem_words] at h ih
    obtain ⟨ht, hts⟩ := not_or.1 (mt List.mem_cons.2 h)
    rw [argumentsOf, if_neg fun heq => ht heq.symm, ih hts]

/-- Tokens after which no parenthesis follows call what they call by themselves. -/
theorem called_append (s : List Token) (hts : ts.head? ≠ some (.symbol '(')) :
    called (s ++ ts) = called s ++ called ts := by
  fun_induction called s with
  | case1 f rest ih => simp only [List.cons_append, called, ih]
  | case2 t rest hnot ih =>
    have hnot' : ∀ f rest', t = .word f → rest ++ ts = .symbol '(' :: rest' → False := by
      intro f rest' ht heq
      cases rest with
      | nil => exact hts (by simpa using congrArg List.head? heq)
      | cons u rest =>
        obtain ⟨hu, -⟩ := List.cons.inj heq
        exact hnot f rest ht (by rw [hu])
    rw [List.cons_append, called.eq_2 _ _ hnot', ih]
  | case3 => rfl

theorem called_of_not_mem (h : .symbol '(' ∉ s) : called s = [] := by
  fun_induction called s with
  | case1 f rest ih => simp at h
  | case2 t rest hnot ih => exact ih fun hmem => h (List.mem_cons_of_mem t hmem)
  | case3 => rfl

theorem called_close (args : List Token) : called (args ++ [.symbol ')']) = called args := by
  have happend : called (args ++ [.symbol ')']) = called args ++ [] :=
    called_append args (by decide)
  rw [happend, List.append_nil]

theorem called_callTokens (f : String) (args : List Token) :
    called (callTokens f args) = f :: called args := by
  show f :: called (args ++ [.symbol ')']) = _
  rw [called_close]

theorem called_blockTokens (ss : List (List Token)) :
    called (blockTokens ss) = ss.flatMap called := by
  induction ss with
  | nil => rfl
  | cons s ss ih =>
    have hblock : blockTokens (s :: ss) = s ++ .symbol ';' :: blockTokens ss := by
      simp [blockTokens]
    have hsemicolon : called (.symbol ';' :: blockTokens ss) = called (blockTokens ss) := rfl
    rw [hblock, called_append s (by simp), hsemicolon, ih, List.flatMap_cons]

end TensorShader.Shader
