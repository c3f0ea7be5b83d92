import TensorShader.Template.Numeral
import TensorShader.Text.Blank

/-! Tokens of shader source: words, whole numbers, and symbols of one character. White space and
symbols end a word or a number. -/

namespace TensorShader.Shader

open Template (isNameChar)

/-- A token of shader source. -/
inductive Token where
  | word (s : String)
  | number (n : Nat)
  | symbol (c : Char)
deriving DecidableEq, Repr

/-- The token of characters of names that stand side by side: a number if all are digits. -/
def Token.ofRun (cs : List Char) : Token :=
  if cs.all Char.isDigit then .number (Nat.ofDigitChars 10 cs 0) else .word (.ofList cs)

/-- The token of a run that has ended, given the latest character first. -/
def endRun (run : List Char) : List Token := if run.isEmpty then [] else [.ofRun run.reverse]

/-- The tokens of the given characters after a run, the latest character first. -/
def scan : (run : List Char) → List Char → List Token
  | run, [] => endRun run
  | run, c :: cs =>
    if isNameChar c then scan (c :: run) cs
    else endRun run ++ if isBlank c then scan [] cs else .symbol c :: scan [] cs

/-- The tokens of a text. -/
def tokens (cs : List Char) : List Token := scan [] cs

theorem scan_run (w : List Char) (hw : ∀ c ∈ w, isNameChar c = true) (run rest : List Char) :
    scan run (w ++ rest) = scan (w.reverse ++ run) rest := by
  induction w generalizing run with
  | nil => rfl
  | cons c w ih =>
    rw [List.cons_append, scan, if_pos (hw c List.mem_cons_self),
      ih (fun d hd => hw d (List.mem_cons_of_mem c hd)), List.reverse_cons, List.append_assoc]
    rfl

/-- A character that belongs to no name separates the tokens before and after it. -/
theorem scan_append (cs : List Char) {d : Char} (hd : isNameChar d = false) (run rest : List Char) :
    scan run (cs ++ d :: rest) = scan run cs ++ scan [] (d :: rest) := by
  induction cs generalizing run with
  | nil =>
    have hname : ¬ isNameChar d = true := by rw [hd]; decide
    simp only [List.nil_append, scan, if_neg hname]
    rw [endRun.eq_def [], if_pos List.isEmpty_nil, List.nil_append]
  | cons c cs ih =>
    rw [List.cons_append, scan, scan]
    split
    · exact ih (c :: run)
    · split
      · rw [ih [], List.append_assoc]
      · rw [ih [], List.append_assoc, List.cons_append]

theorem isNameChar_of_isDigit {c : Char} (h : c.isDigit = true) : isNameChar c = true := by
  simp [isNameChar, Char.isAlphanum, h]

/-- A text that ends apart from names is read by itself. -/
theorem tokens_append_of_last {cs : List Char} (h : cs.getLast?.all (fun c => !isNameChar c) = true)
    (rest : List Char) : tokens (cs ++ rest) = tokens cs ++ tokens rest := by
  rcases List.eq_nil_or_concat cs with rfl | ⟨front, d, rfl⟩
  · rfl
  rw [List.concat_eq_append] at h ⊢
  have hd : (!isNameChar d) = true := by simpa using h
  have hapart : isNameChar d = false := by simpa using hd
  have hrest : tokens (d :: rest) = tokens [d] ++ tokens rest := by
    simp only [tokens, scan, hapart, Bool.false_eq_true, if_false, endRun, List.isEmpty_nil,
      if_true, List.nil_append]
    split <;> rfl
  calc tokens (front ++ [d] ++ rest)
      = tokens front ++ tokens (d :: rest) := by
        rw [List.append_assoc]
        exact scan_append front hapart [] rest
    _ = tokens front ++ tokens [d] ++ tokens rest := by rw [hrest, List.append_assoc]
    _ = tokens (front ++ [d]) ++ tokens rest :=
        congrArg (· ++ tokens rest) (scan_append front hapart [] []).symm

/-- A text that starts apart from names leaves the text before it as it is. -/
theorem tokens_append_of_head (cs : List Char) {ds : List Char}
    (h : ds.head?.any (fun d => !isNameChar d) = true) (rest : List Char) :
    tokens (cs ++ (ds ++ rest)) = tokens cs ++ tokens (ds ++ rest) := by
  obtain ⟨d, hhead, hd⟩ := (Option.any_eq_true _ _).1 h
  obtain ⟨tail, rfl⟩ := List.head?_eq_some_iff.1 hhead
  exact scan_append cs (by simpa using hd) [] (tail ++ rest)

/-- Texts with others between them, one fewer. -/
def weave {α : Type} [Append α] [Inhabited α] : List α → List α → α
  | [], _ => default
  | x :: _, [] => x
  | x :: rest, y :: others => x ++ (y ++ weave rest others)

/-- Where two of the texts follow each other, the first ends and the second starts apart from
names. -/
def areApart : List String → Bool
  | s :: t :: rest =>
    s.toList.getLast?.all (fun c => !isNameChar c) &&
      t.toList.head?.any (fun d => !isNameChar d) && areApart (t :: rest)
  | _ => true

/-- Words between texts that are apart from names are read by themselves. -/
theorem tokens_weave {texts words : List String} (hapart : areApart texts = true)
    (hlength : texts.length = words.length + 1) :
    tokens (weave texts words).toList =
      weave (texts.map (tokens ·.toList)) (words.map (tokens ·.toList)) := by
  induction words generalizing texts with
  | nil =>
    obtain ⟨s, rfl⟩ := List.length_eq_one_iff.1 hlength
    rfl
  | cons w words ih =>
    match texts, hlength with
    | [s], hlength => simp at hlength
    | s :: t :: rest, hlength =>
      simp only [areApart, Bool.and_eq_true] at hapart
      obtain ⟨⟨hlast, hhead⟩, htail⟩ := hapart
      have hrest := ih htail (by simpa using hlength)
      obtain ⟨after, hafter⟩ : ∃ after, (weave (t :: rest) words).toList = t.toList ++ after := by
        cases words with
        | nil => exact ⟨[], (List.append_nil _).symm⟩
        | cons v words => exact ⟨(v ++ weave rest words).toList, String.toList_append⟩
      rw [weave, String.toList_append, String.toList_append, tokens_append_of_last hlast, hafter,
        tokens_append_of_head _ hhead, ← hafter, hrest]
      rfl

theorem tokens_toString (n : Nat) : tokens (toString n).toList = [.number n] := by
  have hlist : (toString n).toList = Nat.toDigits 10 n := Nat.toList_repr
  have hdigit : ∀ c ∈ Nat.toDigits 10 n, c.isDigit = true := fun c hc =>
    Nat.isDigit_of_mem_toDigits (by decide) (by decide) hc
  have hrun := scan_run _ (fun c hc => isNameChar_of_isDigit (hdigit c hc)) [] []
  rw [List.append_nil, List.append_nil] at hrun
  rw [hlist, tokens, hrun, scan, endRun, List.reverse_reverse, Token.ofRun,
    if_neg (by simp [Nat.toDigits_ne_nil]), if_pos (by simpa using hdigit),
    Nat.ofDigitChars_ten_toDigits]

def intTokens : Int → List Token
  | .ofNat n => [.number n]
  | .negSucc n => [.symbol '-', .number (n + 1)]

theorem tokens_int (i : Int) : tokens (toString i).toList = intTokens i := by
  cases i with
  | ofNat n => exact tokens_toString n
  | negSucc n =>
    have htext : (toString (Int.negSucc n)).toList = "-".toList ++ (toString (n + 1)).toList := by
      rw [← String.toList_append]
      rfl
    rw [htext, tokens_append_of_last (by decide), tokens_toString]
    rfl

/-- What holds of every number and of the sign holds of the tokens of an integer. -/
theorem all_intTokens {P : Token → Bool} (hsign : P (.symbol '-') = true)
    (hnumber : ∀ n, P (.number n) = true) (i : Int) : (intTokens i).all P = true := by
  cases i with
  | ofNat n => simp [intTokens, hnumber]
  | negSucc n => simp [intTokens, hsign, hnumber]

/-- Numbers between texts that are apart from names are tokens. -/
theorem tokens_weave_toString {texts : List String} {ns : List Nat} (hapart : areApart texts = true)
    (hlength : texts.length = ns.length + 1) :
    tokens (weave texts (ns.map toString)).toList =
      weave (texts.map (tokens ·.toList)) (ns.map fun n => [.number n]) := by
  rw [tokens_weave hapart (by rw [hlength, List.length_map]), List.map_map]
  simp only [Function.comp_def, tokens_toString]

/-- Tokens are made of the characters of their text. -/
theorem mem_scan {run cs : List Char} {t : Token} (h : t ∈ scan run cs) :
    (∃ w, (∀ c ∈ w, c ∈ run ∨ c ∈ cs) ∧ t = .ofRun w) ∨ ∃ c ∈ cs, t = .symbol c := by
  have hend {run cs : List Char} (h : t ∈ endRun run) :
      ∃ w, (∀ c ∈ w, c ∈ run ∨ c ∈ cs) ∧ t = .ofRun w := by
    unfold endRun at h
    split at h
    · cases h
    · exact ⟨run.reverse, fun c hc => .inl (List.mem_reverse.1 hc), List.mem_singleton.1 h⟩
  induction cs generalizing run with
  | nil => exact .inl (hend h)
  | cons d cs ih =>
    have hlift (h : t ∈ scan [] cs) :
        (∃ w, (∀ c ∈ w, c ∈ run ∨ c ∈ d :: cs) ∧ t = .ofRun w) ∨ ∃ c ∈ d :: cs, t = .symbol c := by
      rcases ih h with ⟨w, hw, ht⟩ | ⟨c, hc, ht⟩
      · refine .inl ⟨w, fun c hc => .inr ?_, ht⟩
        exact List.mem_cons_of_mem d ((hw c hc).resolve_left List.not_mem_nil)
      · exact .inr ⟨c, List.mem_cons_of_mem d hc, ht⟩
    rw [scan] at h
    split at h
    · rcases ih h with ⟨w, hw, ht⟩ | ⟨c, hc, ht⟩
      · refine .inl ⟨w, fun c hc => ?_, ht⟩
        rcases hw c hc with hrun | hrest
        · rcases List.mem_cons.1 hrun with rfl | hrun
          · exact .inr List.mem_cons_self
          · exact .inl hrun
        · exact .inr (List.mem_cons_of_mem d hrest)
      · exact .inr ⟨c, List.mem_cons_of_mem d hc, ht⟩
    · rcases List.mem_append.1 h with h | h
      · exact .inl (hend h)
      · split at h
        · exact hlift h
        · rcases List.mem_cons.1 h with rfl | h
          · exact .inr ⟨d, List.mem_cons_self, rfl⟩
          · exact hlift h

theorem mem_word_tokens {cs : List Char} {f : String} (h : .word f ∈ tokens cs) :
    ∀ c ∈ f.toList, c ∈ cs := by
  intro c hc
  rcases mem_scan h with ⟨w, hw, ht⟩ | ⟨d, -, ht⟩
  · unfold Token.ofRun at ht
    split at ht
    · cases ht
    · obtain rfl := Token.word.inj ht
      rw [String.toList_ofList] at hc
      exact (hw c hc).resolve_left List.not_mem_nil
  · cases ht

theorem mem_symbol_tokens {cs : List Char} {d : Char} (h : .symbol d ∈ tokens cs) : d ∈ cs := by
  rcases mem_scan h with ⟨w, -, ht⟩ | ⟨c, hc, ht⟩
  · unfold Token.ofRun at ht
    split at ht <;> cases ht
  · obtain rfl := Token.symbol.inj ht
    exact hc

/-- A name: letters, digits and underscores, not all of them digits. -/
def IsName (s : String) : Prop :=
  s.toList.all isNameChar = true ∧ s.toList.all Char.isDigit = false

instance (s : String) : Decidable (IsName s) := inferInstanceAs (Decidable (_ ∧ _))

/-- A name is one token. -/
theorem tokens_name {s : String} (h : IsName s) : tokens s.toList = [.word s] := by
  obtain ⟨hall, hdigit⟩ := h
  have hrun := scan_run _ (List.all_eq_true.mp hall) [] []
  rw [List.append_nil, List.append_nil] at hrun
  have hne : s.toList ≠ [] := by
    intro hnil
    rw [hnil] at hdigit
    cases hdigit
  rw [tokens, hrun, scan, endRun, List.reverse_reverse, Token.ofRun, if_neg (by simpa using hne),
    hdigit, if_neg Bool.false_ne_true, String.ofList_toList]

end TensorShader.Shader
