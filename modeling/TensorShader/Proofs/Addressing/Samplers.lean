import TensorShader.Proofs.Addressing.Declarations

/-! Samplers in declarations: which are declared, and the fetches from them. What does not mention
samplers can be added freely. -/

namespace TensorShader

open Library
open Shader (Token argumentsOf callTokens functionTokens uniformTokens words)

/-- Whether a word is the type of a sampler: it is so named. -/
def isSamplerType (w : String) : Bool :=
  (Shader.Function.after? "sampler".toList w.toList).isSome

/-- A sampler has layers if channels are layers. -/
def samplerTokens (packing : Packing) (x : String) : List Token :=
  match packing with
  | .plain => uniformTokens "sampler2DArray" x
  | .channelMajor => uniformTokens "sampler2D" x

/-- What declarations do with samplers: they declare the given ones and no others, and fetch from
each in one place. -/
structure Samples (packing : Packing) (xs : List String) (ds : List (List Token)) : Prop where
  declared : ∀ x ∈ xs, samplerTokens packing x ∈ ds
  others : ∀ d ∈ ds, ∀ w ∈ words d, isSamplerType w = true → ∃ x ∈ xs, d = samplerTokens packing x
  fetches : (ds.flatMap (argumentsOf "texelFetch")).Perm (xs.map (some <| fetchArgs packing ·))
  /-- The position of a fetch is a vector of three components. -/
  position : ∀ d ∈ ds, "texelFetch" ∈ words d → [.word "ivec3", .word "pos", .symbol '='] <:+: d

theorem mem_of_isSamplerType {w : String} (h : isSamplerType w = true) : 's' ∈ w.toList := by
  obtain ⟨rest, h⟩ := Option.isSome_iff_exists.1 h
  exact Shader.Function.mem_of_after? h

namespace Samples

variable {packing : Packing} {xs ys : List String} {ds es : List (List Token)}

theorem append (hds : Samples packing xs ds) (hes : Samples packing ys es) :
    Samples packing (xs ++ ys) (ds ++ es) where
  declared x hx := by
    rcases List.mem_append.1 hx with hx | hx
    · exact List.mem_append_left es (hds.declared x hx)
    · exact List.mem_append_right ds (hes.declared x hx)
  others d hd w hw hsampler := by
    rcases List.mem_append.1 hd with hd | hd
    · obtain ⟨x, hx, heq⟩ := hds.others d hd w hw hsampler
      exact ⟨x, List.mem_append_left ys hx, heq⟩
    · obtain ⟨x, hx, heq⟩ := hes.others d hd w hw hsampler
      exact ⟨x, List.mem_append_right xs hx, heq⟩
  fetches := by
    rw [List.flatMap_append, List.map_append]
    exact hds.fetches.append hes.fetches
  position d hd := by
    rcases List.mem_append.1 hd with hd | hd
    · exact hds.position d hd
    · exact hes.position d hd

theorem perm (h : Samples packing xs ds) (hperm : xs.Perm ys) : Samples packing ys ds where
  declared x hx := h.declared x (hperm.mem_iff.2 hx)
  others d hd w hw hsampler := by
    obtain ⟨x, hx, heq⟩ := h.others d hd w hw hsampler
    exact ⟨x, hperm.mem_iff.1 hx, heq⟩
  fetches := h.fetches.trans (hperm.map _)
  position := h.position

end Samples

/-- Whether a token has nothing to do with samplers. -/
def Shader.Token.isApart : Token → Bool
  | .word w => !isSamplerType w && w ≠ "texelFetch"
  | _ => true

theorem of_isApart {d : List Token} (h : d.all Token.isApart = true) :
    ∀ w ∈ words d, isSamplerType w = false ∧ w ≠ "texelFetch" := by
  intro w hw
  have hapart := List.all_eq_true.1 h _ (Shader.mem_words.1 hw)
  simpa [Token.isApart] using hapart

theorem samples_nil (packing : Packing) {ds : List (List Token)}
    (h : ds.all (·.all Token.isApart) = true) : Samples packing [] ds := by
  have hword (d : List Token) (hd : d ∈ ds) := of_isApart (List.all_eq_true.1 h d hd)
  refine ⟨List.forall_mem_nil _, fun d hd w hw hsampler => ?_, .of_eq ?_, fun d hd hfetch => ?_⟩
  · rw [(hword d hd w hw).1] at hsampler
    cases hsampler
  · refine List.flatMap_eq_nil_iff.2 fun d hd => Shader.argumentsOf_of_not_mem fun hfetch => ?_
    exact (hword d hd _ hfetch).2 rfl
  · exact absurd rfl (hword d hd _ hfetch).2

theorem Library.position_infix (name position texture : String) (packing : Packing) :
    [.word "ivec3", .word "pos", .symbol '='] <:+: valueTokens name position texture packing := by
  let front : List Token := .word "float" :: .word name :: .symbol '(' ::
    (intParams ["n", "c", "h", "w"] ++ [.symbol ')', .symbol '\x7b'])
  let back : List Token := callTokens position (wordArgs ["n", "c", "h", "w"]) ++ .symbol ';' ::
    Shader.blockTokens [.word "return" :: (callTokens "texelFetch" (fetchArgs packing texture) ++
      [.symbol '.', .word "r"])]
  refine ⟨front, back, ?_⟩
  simp [front, back, valueTokens, functionTokens, Shader.blockTokens]

end TensorShader
