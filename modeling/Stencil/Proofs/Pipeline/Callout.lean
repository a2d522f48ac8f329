import Mathlib.Data.List.Basic
import Stencil.Pipeline.Forge
import Stencil.Proofs.Highlight.Formatter

/-!
# What a Callout Shows

That a callout is markup of its own tags and shows exactly what it is about.

A callout is put together from a title, a message and a source, and the last two
can be any text: the message tells the reader about the source, which is what
could not be read. Neither can do anything to the tags. Those of the callout itself are
known before there is a message or a source; those around the source come from the
highlighter, which knows no more of it than its style, and the spans have declarations of
that style. So the written form is taken apart into just these tags and the characters
between them, and the characters, entities read once, are the title, the message as it
is, and the source put in order.

The message is escaped here and the source by the highlighter, each with entities of its
own. A reader knows both, so it makes no difference which of them a quote is written
with, or whether it is replaced at all.

## Main definitions

* `calloutBlocks`: The blocks that a callout is made of.
* `IsCalloutTag`: The tags that a callout can have.

## Theorems

* `name_of_isCalloutTag`: They have one of three names.
* `writes_shownSource`: The source is put together well.
* `shows_errorCallout`: A callout shows its title, its message and its source.
-/

namespace Stencil

open Text (Tag Writes WritesWith)
open Highlight (Highlighter Style)

/-- The style classes of the blocks that a callout is made of, from the outermost to the last of
    those inside. -/
def calloutBlocks : List String :=
  ["callout callout-danger", "callout-title", "callout-content", "callout-source"]

/-- The tags that a callout can have. They depend on the highlighter and its style
    alone. -/
inductive IsCalloutTag (h : Highlighter) (style : Style) : Tag → Prop
  /-- The callout and its parts. -/
  | block {styleClass : String} (hclass : styleClass ∈ calloutBlocks) :
      IsCalloutTag h style (.div styleClass)
  /-- What stands around the source and in it. -/
  | page {t : Tag} (ht : Highlight.IsPageTag h style t) : IsCalloutTag h style t

/-- A text that is escaped is written without tags. -/
theorem writes_escapeText (s : String) : Writes [] (Text.escapeText s).toList s.toList := by
  rw [Text.escapeText, String.toList_ofList]
  have hspecial : ∀ c ∈ ['&', '<', '>'], c ∈ Text.entities.map Prod.fst := by
    simp [Text.entities]
  exact .replaced (Text.stands_replaced (fun _ => List.mem_append_left _) hspecial) s.toList

section Callout

variable {h : Highlighter} {style : Style} {settings : Settings}

/-- A block of a callout is put together well if what it holds is. -/
theorem writes_block (styleClass : String) {content : String} {shown : List Char}
    (hcontent : WritesWith (IsCalloutTag h style) content.toList shown)
    (hclass : styleClass ∈ calloutBlocks) :
    WritesWith (IsCalloutTag h style) ((Tag.div styleClass).around content).toList shown := by
  have hplain : ∀ styleClass ∈ calloutBlocks, (Tag.div styleClass).IsPlain := by decide +kernel
  rw [Tag.toList_around]
  exact hcontent.element (hplain _ hclass) (.block hclass)

variable (hsound : h.IsSound) (hstyle : h.style? settings.style = some style)

include hsound hstyle

theorem name_of_isCalloutTag {t : Tag} (ht : IsCalloutTag h style t) :
    t.name ∈ ["div", "pre", "span"] := by
  cases ht with
  | block => simp [Tag.div]
  | page ht => exact Highlight.name_of_isPageTag hsound hstyle ht

/-- The source is put together well, and shows itself put in order with a line feed after
    it. -/
theorem writes_shownSource (hshows : settings.showsSource = true) (source : String) :
    ∃ shown, shownSource h (some source) settings = .ok shown ∧
      WritesWith (IsCalloutTag h style) shown.toList (Highlight.tidy source.toList ++ ['\n']) := by
  have hspelling : Highlight.spelling (Highlight.Language.codeblock.lexTidied source) =
      Highlight.tidy source.toList := Highlight.Language.spelling_lex ..
  have hends : Highlight.endsLine (Highlight.spelling
      (Highlight.Language.codeblock.lexTidied source)) = true := by
    rw [hspelling, Highlight.endsLine_tidy]
  have hpage := (Highlight.writes_page hsound hstyle hends).mono fun t ht =>
    (.page ht : IsCalloutTag h style t)
  rw [hspelling, ← String.toList_ofList (l := Highlight.page ..)] at hpage
  refine ⟨_, ?_, writes_block "callout-source" hpage (by decide)⟩
  simp only [shownSource, hshows, Highlight.highlight?, hstyle, Option.map_some,
    Highlight.Lexer.ofName_codeblock, Highlight.Language.lexTidied_lexer]

/-- Whatever the message and the source are, a callout is written with tags of its
    own, which are nested, and shows its title, the message, and the source put in
    order with a line feed after it. All that a highlighter has to do for this is to
    replace characters by entities that stand for them, ampersands and angle brackets
    among them, and to keep its styles and frames free of what ends a tag. -/
theorem shows_errorCallout (hshows : settings.showsSource = true) (message source : String) :
    ∃ callout tags, errorCallout h message (some source) settings = .ok callout ∧
      Text.Shows tags callout.toList ("CalloutForge Error".toList ++ message.toList ++
        Highlight.tidy source.toList ++ ['\n']) ∧
      ∀ t ∈ tags, t.name ∈ ["div", "pre", "span"] ∧ IsCalloutTag h style t := by
  obtain ⟨shown, hshown, hsource⟩ := writes_shownSource hsound hstyle hshows source
  have htitle : WritesWith (IsCalloutTag h style) "CalloutForge Error".toList
      "CalloutForge Error".toList := by
    have hescaped : Text.escapeText "CalloutForge Error" = "CalloutForge Error" := by decide
    rw [← hescaped]
    exact (writes_escapeText _).writesWith _
  have hmessage := (writes_escapeText message).writesWith (IsCalloutTag h style)
  -- The three parts one after the other are what the outer block holds.
  have hparts := ((writes_block "callout-title" htitle (by decide)).append
    (writes_block "callout-content" hmessage (by decide))).append hsource
  rw [← String.toList_append, ← String.toList_append, ← List.append_assoc] at hparts
  obtain ⟨tags, hwrites, htags⟩ := writes_block "callout callout-danger" hparts (by decide)
  refine ⟨_, tags, congrArg _ hshown, hwrites.shows, fun t ht => ?_⟩
  exact ⟨name_of_isCalloutTag hsound hstyle (htags t ht), htags t ht⟩

end Callout

/-- The source starts with a byte order mark and ends lines in two ways, and both it
    and the message look like markup and have quotes. The highlighter replaces quotes by
    other entities than those that the message is escaped with. -/
theorem shows_errorCallout_lookalikes :
    ∃ callout tags,
      errorCallout (.usual true) "<b>&amp;</b> \"it's\""
          (some "\ufeff\nkey: <i> \"isn't\"\r\n```&lt;\r</div>") {} = .ok callout ∧
      Text.Shows tags callout.toList
        "CalloutForge Error<b>&amp;</b> \"it's\"key: <i> \"isn't\"\n```&lt;\n</div>\n\n".toList ∧
      ∀ t ∈ tags, t.name ∈ ["div", "pre", "span"] := by
  have hlight : (Highlighter.usual true).style? ({} : Settings).style = some Style.light := by
    decide
  obtain ⟨callout, tags, hcallout, hshows, htags⟩ := shows_errorCallout
    (Highlight.isSound_usual true) hlight rfl "<b>&amp;</b> \"it's\""
    "\ufeff\nkey: <i> \"isn't\"\r\n```&lt;\r</div>"
  refine ⟨callout, tags, hcallout, ?_, fun t ht => (htags t ht).1⟩
  have htidy : Highlight.tidy "\ufeff\nkey: <i> \"isn't\"\r\n```&lt;\r</div>".toList =
      "key: <i> \"isn't\"\n```&lt;\n</div>\n".toList := by decide
  rw [htidy] at hshows
  exact hshows

end Stencil
