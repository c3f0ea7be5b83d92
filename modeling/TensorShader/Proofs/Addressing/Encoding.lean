import TensorShader.Proofs.Addressing.Broadcast
import TensorShader.Proofs.Addressing.Position

/-! The addressing of textures. The function that finds the texel of an operand's element and the
function that finds the element of an output texel are inverse to each other on the elements and
the texels of a layout. -/

namespace TensorShader

open Subroutine (Instance)
open Shader (callIn callIn_self callIn_cons_of_ne)

namespace Library

def transferFragment : Fragment :=
  ⟨⟨"transferFromNHWCtoNCHW", none⟩, transferText "transferFromNHWCtoNCHW"⟩

def positionFragment (out : LayoutRecord) : Fragment :=
  ⟨⟨"getOutputTensorPos", none⟩, positionText "getOutputTensorPos" out⟩

def texelFragment (key : String) (l : LayoutRecord) : Fragment :=
  ⟨⟨"getTexturePos", some key⟩, texelText (Instance.ident ⟨"getTexturePos", some key⟩) l⟩

variable {globals : List (String × List Int)}

theorem callIn_transferFragment (earlier : List Fragment) (n c h w : Int) :
    callIn globals (transferFragment :: earlier) "transferFromNHWCtoNCHW" [n, h, w, c] =
      some [n, c, h, w] := by
  have hread : Shader.Function.read? transferFragment.ident transferFragment.source =
      some transferFunction := read?_transferText
  exact (callIn_self hread).trans (call_transferFunction _ _ n c h w)

/-- At a texel of the output, the coordinate of the element is found if the function that moves its
components is defined before. -/
theorem callIn_positionFragment {out : LayoutRecord} {earlier : List Fragment} {t : Texel}
    {further : List Int} (hout : out.shape.Nonempty)
    (hearlier : ∀ n c h w, callIn (t.globals further) earlier "transferFromNHWCtoNCHW"
      [n, h, w, c] = some [n, c, h, w]) :
    callIn (t.globals further) (positionFragment out :: earlier) "getOutputTensorPos" [] =
      some (out.coord t).vector := by
  have hread : Shader.Function.read? (positionFragment out).ident (positionFragment out).source =
      some (positionFunction out.packing out.shape) := read?_positionText out
  exact (callIn_self hread).trans (call_positionFunction hearlier hout t further)

theorem callIn_texelFragment (key : String) (l : LayoutRecord) (earlier : List Fragment) (p : Coord) :
    callIn globals (texelFragment key l :: earlier) (texelFragment key l).ident p.vector =
      some (l.texel p).vector := by
  have hread : Shader.Function.read? (texelFragment key l).ident (texelFragment key l).source =
      some (texelFunction l.packing l.shape) := read?_texelText key l
  rw [callIn_self hread, call_texelFunction]

theorem resolve_positions (key : String) :
    addressing.resolve [⟨"getTexturePos", some key⟩, ⟨"getOutputTensorPos", none⟩] =
      .ok ⟨[⟨"getTexturePos", some key⟩, ⟨"transferFromNHWCtoNCHW", none⟩,
        ⟨"getOutputTensorPos", none⟩]⟩ := rfl

end Library

open Library

/-- The fragments that find texels and output elements for one layout. Finding the texel of an
element is a bijection from the elements of the layout's shape to the texels of its texture, and at
that texel the output element that is found is the same one. -/
theorem Layout.texel_encoding (l : Layout) (inputs : NameMap LayoutRecord) (key : String) :
    ∃ plan fragments,
      addressing.resolve [⟨"getTexturePos", some key⟩, ⟨"getOutputTensorPos", none⟩] = .ok plan ∧
      addressing.render plan ((LayoutTable.mk l inputs).bind key l) = .ok fragments ∧
      Set.BijOn l.texel {p | p.Inside l.shape} {t | t.Inside l} ∧
      ∀ p : Coord, p.Inside l.shape →
        callIn [] fragments.reverse (Instance.ident ⟨"getTexturePos", some key⟩) p.vector =
          some (l.texel p).vector ∧
        ∀ further, callIn ((l.texel p).globals further) fragments.reverse "getOutputTensorPos" [] =
          some p.vector := by
  have hrender : addressing.render ⟨[⟨"getTexturePos", some key⟩,
      ⟨"transferFromNHWCtoNCHW", none⟩, ⟨"getOutputTensorPos", none⟩]⟩
      ((LayoutTable.mk l inputs).bind key l) =
      .ok [texelFragment key l, transferFragment, positionFragment l] := by
    have htexel := fragment_getTexturePos ((LayoutTable.mk l inputs).layoutOf_bind
      "getTexturePos" key l)
    have htransfer := fragment_transfer ((LayoutTable.mk l inputs).bind key l)
    have hposition := fragment_getOutputTensorPos ((LayoutTable.mk l inputs).bind key l)
    simp only [Library.render, List.mapM_cons, List.mapM_nil, htexel, htransfer, hposition]
    rfl
  refine ⟨_, _, resolve_positions key, hrender, l.texel_bijOn, fun p hp => ⟨?_, fun further => ?_⟩⟩
  · have hposition : (texelFragment key l).ident ≠ (positionFragment l).ident := by
      intro h
      have hlist := congrArg String.toList h
      simp [Fragment.ident, texelFragment, positionFragment, Instance.ident] at hlist
    have htransfer : (texelFragment key l).ident ≠ transferFragment.ident := by
      intro h
      have hlist := congrArg String.toList h
      simp [Fragment.ident, texelFragment, transferFragment, Instance.ident] at hlist
    show callIn [] [positionFragment l, transferFragment, texelFragment key l]
      (texelFragment key l).ident p.vector = _
    rw [callIn_cons_of_ne hposition, callIn_cons_of_ne htransfer, callIn_texelFragment]
  · show callIn _ (positionFragment l :: [transferFragment, texelFragment key l]) _ _ = _
    rw [callIn_positionFragment l.nonempty (callIn_transferFragment [texelFragment key l]),
      LayoutRecord.coord_texel hp]

def wideLayout : Layout :=
  .ofFits sampleLayout.shape .channelMajor sampleLayout.nonempty sampleLayout.height_lt (by decide)

/-- The last element lies in the last column and row, and is found there again. -/
theorem Layout.texel_encoding_last :
    Coord.Inside ⟨1, 2, 3, 4⟩ wideLayout.shape ∧
      ∃ plan fragments,
        addressing.resolve [⟨"getTexturePos", some "x"⟩, ⟨"getOutputTensorPos", none⟩] = .ok plan ∧
        addressing.render plan ((LayoutTable.ofOutput wideLayout).bind "x" wideLayout) =
          .ok fragments ∧
        callIn [] fragments.reverse "getTexturePos_x" [1, 2, 3, 4] = some [14, 7, 0] ∧
        callIn [("gl_FragCoord", [14, 7]), ("u_out_layer", [0])] fragments.reverse
          "getOutputTensorPos" [] = some [1, 2, 3, 4] := by
  have hp : Coord.Inside ⟨1, 2, 3, 4⟩ wideLayout.shape := by decide
  obtain ⟨plan, fragments, hplan, hfragments, -, hall⟩ :=
    Layout.texel_encoding wideLayout .empty "x"
  obtain ⟨htexel, hposition⟩ := hall ⟨1, 2, 3, 4⟩ hp
  exact ⟨hp, plan, fragments, hplan, hfragments, htexel, hposition []⟩

end TensorShader
