import Mathlib
import Stencil.Proofs.Block.RoundTrip
import Stencil.Proofs.Pipeline.Outcome

/-!
# Values and Markup

What the values of a codeblock can do to the markup of its output.

If no renderer is given, a value is wrapped into an element of the host's style
class and its special characters are replaced, so that nothing in it can start
or end a tag or an attribute. `Contributes` says what each token of a template
adds to the output: a text is copied, a value stands in its element in a form
that shows it, and what stands in for a missing value is copied too. Values are
put in where their placeholders are and are not read again, so a value that
looks like a placeholder is one text among others.

It follows that two codeblocks of the same keys that name the same template have
outputs with the same markup. The proof compares the two outputs token by token:
the same tokens have values in both, so they contribute an element to both or
the same text to both, and the two elements differ in a part without markup.

## Main definitions

* `isMarkup`: The characters that make up tags and attributes.
* `Contributes`: What a token adds to an output.
* `MadeOf`: An output as what its tokens add to it, one after the other.

## Theorems

* `contributes_of_fill?`: What fills a token is what it contributes.
* `madeOf_of_forgeWork`: An output is made of what its tokens contribute.
* `Contributes.filter_isMarkup_eq`: Contributions of a token have the same markup.
* `filter_isMarkup_forge`: The values of a codeblock do not change the markup.
-/

namespace Stencil

/-- Whether a character belongs to the markup that tags and attributes are
    made of. -/
def isMarkup (c : Char) : Bool :=
  c = '<' || c = '>' || c = '"' || c = '\''

/-- What a token adds to the output of a codeblock with the given properties. Only the second case
    depends on values, and there they can be seen in the text but not in the markup. -/
inductive Contributes (styleClass : String) (ps : List Block.Property) :
    Template.Token → String → Prop
  /-- A text adds itself. -/
  | text (content : String) : Contributes styleClass ps (.text content) content
  /-- A placeholder with a value adds an element of the style class, which holds
      a text without markup that shows the value. -/
  | value {p : Template.Placeholder} {property : Block.Property} {shown : String}
      (hmem : property ∈ ps) (hkey : property.key = p.name)
      (hplain : ∀ c ∈ shown.toList, isMarkup c = false)
      (hshown : Text.unescape shown.toList = property.value.toList) :
      Contributes styleClass ps (.hole p)
        ("<div class=\"" ++ Text.escapeText styleClass ++ "\">" ++ shown ++ "</div>")
  /-- A placeholder without a value adds what its rule says, as it stands. -/
  | default {p : Template.Placeholder} {text : String}
      (hnone : p.name ∉ ps.map Block.Property.key) (htext : p.rule.text? = some text) :
      Contributes styleClass ps (.hole p) text

/-- An output is what its tokens add to it, one after the other. No key of the
    properties occurs twice, so a placeholder has at most one value. -/
structure MadeOf (styleClass : String) (ps : List Block.Property) (tokens : List Template.Token)
    (output : String) : Prop where
  /-- The keys are distinct. -/
  distinct : (ps.map Block.Property.key).Nodup
  /-- Each token adds a part. -/
  parts : ∃ parts, List.Forall₂ (Contributes styleClass ps) tokens parts ∧
    output = String.join parts

/-! ## What a token contributes -/

/-- Nothing in an escaped text is markup. -/
theorem isMarkup_of_mem_escapeText {s : String} {c : Char} (h : c ∈ (Text.escapeText s).toList) :
    isMarkup c = false := by
  rw [Text.escapeText, String.toList_ofList] at h
  rcases Text.escape_safe h with ⟨hopen, hclose, hdouble, hsingle⟩
  simp [isMarkup, hopen, hclose, hdouble, hsingle]

/-- What fills a token is what it contributes. The values that a template is filled with have been
    rendered before, so the property behind each has to be found again. -/
theorem contributes_of_fill? {styleClass : String} {ps : List Block.Property}
    {token : Template.Token} {part : String}
    (h : Template.fill? (.ofProperties ((Renderer.wrap styleClass).properties ps)) token =
      some part) :
    Contributes styleClass ps token part := by
  cases token with
  | text content =>
      rw [Template.fill?_text, Option.some.injEq] at h
      exact h ▸ .text content
  | hole p =>
      rw [Template.fill?] at h
      cases hvalue : (Template.Values.ofProperties
          ((Renderer.wrap styleClass).properties ps)).get? p.name with
      | none =>
          rw [hvalue] at h
          have htext : p.rule.text? = some part := h
          rw [Template.Values.get?_ofProperties_eq_none_iff, Renderer.map_key_properties] at hvalue
          exact .default hvalue htext
      | some rendered =>
          rw [hvalue] at h
          obtain rfl : rendered = part := Option.some.inj h
          -- The value was rendered, and belongs to a property of that key.
          have hmem := Template.Values.mem_of_get?_ofProperties hvalue
          rcases List.mem_map.1 hmem with ⟨property, hproperty, heq⟩
          rw [Block.Property.mk.injEq] at heq
          rcases heq with ⟨hkey, rfl⟩
          rw [Renderer.wrap_render]
          refine .value hproperty hkey (fun c hc => isMarkup_of_mem_escapeText hc) ?_
          rw [Text.escapeText, String.toList_ofList, Text.unescape_escape]

/-- Tokens that can be filled are filled one by one. -/
theorem forall₂_filterMap_fill? {values : Template.Values} {tokens : List Template.Token}
    (h : ∀ t ∈ tokens, (Template.fill? values t).isSome) :
    List.Forall₂ (fun t part => Template.fill? values t = some part) tokens
      (tokens.filterMap (Template.fill? values)) := by
  induction tokens with
  | nil => exact .nil
  | cons t tokens ih =>
      rcases Option.isSome_iff_exists.1 (h t List.mem_cons_self) with ⟨part, hpart⟩
      rw [List.filterMap_cons_some hpart]
      exact .cons hpart (ih fun t ht => h t (List.mem_cons_of_mem _ ht))

/-- An output is made of what the tokens of the template contribute. -/
theorem madeOf_of_forgeWork {source : String} {loader : Files.Loader} {settings : Settings}
    {ps : List Block.Property} {output : String}
    (hps : (Block.parse source false).outcome = .ok ps)
    (h : (forgeWork source loader none settings).outcome = .ok output) :
    ∃ tokens, templateTokens loader settings ps = .ok tokens ∧
      MadeOf settings.markdownClass ps tokens output := by
  rcases outcome_forgeWork_eq_ok_iff.1 h with ⟨qs, tokens, hparse, htokens, hall, hjoin⟩
  rw [hps, Except.ok.injEq] at hparse
  subst hparse
  refine ⟨tokens, htokens, (Block.wellFormed_of_parse hps).distinct, _, ?_, hjoin.symm⟩
  exact (forall₂_filterMap_fill? hall).imp fun t part hpart => contributes_of_fill? hpart

/-! ## The markup of an output -/

/-- Whatever the values are, a token contributes the same markup. Values are written without
    markup, and whether there is a value at all depends on the keys only, which are the same. -/
theorem Contributes.filter_isMarkup_eq {styleClass : String} {ps qs : List Block.Property}
    (hkeys : ∀ key, key ∈ ps.map Block.Property.key ↔ key ∈ qs.map Block.Property.key)
    {token : Template.Token} {part part' : String} (h : Contributes styleClass ps token part)
    (h' : Contributes styleClass qs token part') :
    part.toList.filter isMarkup = part'.toList.filter isMarkup := by
  -- A value adds no markup of its own.
  have hnothing : ∀ {shown : String}, (∀ c ∈ shown.toList, isMarkup c = false) →
      shown.toList.filter isMarkup = [] := by
    intro shown hshown
    rw [List.filter_eq_nil_iff]
    intro c hc
    rw [hshown c hc]
    exact Bool.false_ne_true
  have hkey : ∀ {rs : List Block.Property} {property : Block.Property} {name : String},
      property ∈ rs → property.key = name → name ∈ rs.map Block.Property.key := by
    rintro rs property name hmem rfl
    exact List.mem_map_of_mem hmem
  cases h with
  | text content =>
      cases h'
      rfl
  | value hmem hname hplain hshown =>
      cases h' with
      | value hmem' hname' hplain' hshown' =>
          -- The two elements differ in what they hold, and that is no markup.
          simp only [String.toList_append, List.filter_append, hnothing hplain, hnothing hplain']
      | default hnone htext => exact absurd ((hkeys _).1 (hkey hmem hname)) hnone
  | default hnone htext =>
      cases h' with
      | value hmem' hname' hplain' hshown' => exact absurd ((hkeys _).2 (hkey hmem' hname')) hnone
      | default hnone' htext' =>
          rw [htext, Option.some.injEq] at htext'
          rw [htext']

/-- Outputs of the same tokens have the same markup. Part by part, markup comes from the template
    or from the element around a value, and neither depends on the value. -/
theorem MadeOf.filter_isMarkup_eq {styleClass : String} {ps qs : List Block.Property}
    {tokens : List Template.Token} {output output' : String}
    (hkeys : ∀ key, key ∈ ps.map Block.Property.key ↔ key ∈ qs.map Block.Property.key)
    (h : MadeOf styleClass ps tokens output) (h' : MadeOf styleClass qs tokens output') :
    output.toList.filter isMarkup = output'.toList.filter isMarkup := by
  rcases h.parts with ⟨parts, hparts, rfl⟩
  rcases h'.parts with ⟨parts', hparts', rfl⟩
  rw [String.toList_join, String.toList_join]
  -- The parts belong to the same tokens, so they are gone through together.
  clear h h'
  induction hparts generalizing parts' with
  | nil =>
      cases hparts'
      rfl
  | cons hpart hparts ih =>
      cases hparts' with
      | cons hpart' hparts' =>
          simp only [List.flatMap_cons, List.filter_append]
          rw [hpart.filter_isMarkup_eq hkeys hpart', ih _ hparts']

/-- The values of a codeblock do not change the markup of its output: two codeblocks of the same
    keys that name the same template have outputs with the same markup, made of what the same
    tokens contribute to both.

    So a value can neither open a tag nor end one, nor can it end the value of an attribute. What
    stands in the template and in its fallbacks is written as it is, and may be markup. -/
theorem filter_isMarkup_forge {loader : Files.Loader} {settings : Settings}
    {journal journal' : Journal} {one other : String} {ps qs : List Block.Property}
    {output output' : String}
    (hps : (Block.parse one false).outcome = .ok ps)
    (hqs : (Block.parse other false).outcome = .ok qs)
    (hkeys : ∀ key, key ∈ ps.map Block.Property.key ↔ key ∈ qs.map Block.Property.key)
    (htemplate : (ps.find? (·.key = settings.templateKey)).map Block.Property.value =
      (qs.find? (·.key = settings.templateKey)).map Block.Property.value)
    (hone : (forge one loader none settings journal).1 = .ok output)
    (hother : (forge other loader none settings journal').1 = .ok output') :
    output.toList.filter isMarkup = output'.toList.filter isMarkup ∧
      ∃ text tokens,
        (loader.load (settings.templatePath (settings.templateName ps))).outcome = .ok text ∧
        (Template.Registry.standard.tokenize text).outcome = .ok tokens ∧
        MadeOf settings.markdownClass ps tokens output ∧
        MadeOf settings.markdownClass qs tokens output' := by
  rw [outcome_forge] at hone hother
  rcases madeOf_of_forgeWork hps hone with ⟨tokens, htokens, hmade⟩
  rcases madeOf_of_forgeWork hqs hother with ⟨found, hfound, hmade'⟩
  -- The template that is named is the same, so both outputs are made of the same tokens.
  rw [← templateTokens_congr (templateName_congr htemplate), htokens, Except.ok.injEq] at hfound
  subst hfound
  rcases templateTokens_eq_ok_iff.1 htokens with ⟨-, text, hload, htokenize, -⟩
  exact ⟨hmade.filter_isMarkup_eq hkeys hmade', text, tokens, hload, htokenize, hmade, hmade'⟩

/-- One value looks like a placeholder in quotes, the other one like a tag. The
    placeholder that stands after them has no value, and its fallback is markup. -/
theorem filter_isMarkup_forge_lookalikes :
    let loader := Files.Loader.ofEntries
      [("HTML/note.html", "<b>{{title}}</b>{{text|<hr>}}")]
    let one := "template: note\ntitle: \"{{ text }}\""
    let other := "title: <i>&lt;\ntemplate: note"
    let ps : List Block.Property := [⟨"template", "note"⟩, ⟨"title", "\"{{ text }}\""⟩]
    let qs : List Block.Property := [⟨"title", "<i>&lt;"⟩, ⟨"template", "note"⟩]
    let output := "<b><div class=\"cf-markdown\">&quot;{{ text }}&quot;</div></b><hr>"
    let output' := "<b><div class=\"cf-markdown\">&lt;i&gt;&amp;lt;</div></b><hr>"
    (Block.parse one false).outcome = .ok ps ∧ (Block.parse other false).outcome = .ok qs ∧
      (forge one loader none {} {}).1 = .ok output ∧
      (forge other loader none {} {}).1 = .ok output' ∧
      output.toList.filter isMarkup = output'.toList.filter isMarkup := by
  intro loader one other ps qs output output'
  have hps : (Block.parse one false).outcome = .ok ps := by
    rw [Block.Parser.outcome_parse_eq, if_neg (by decide)]
    decide
  have hqs : (Block.parse other false).outcome = .ok qs := by
    rw [Block.Parser.outcome_parse_eq, if_neg (by decide)]
    decide
  let tokens : List Template.Token := [.text "<b>", .hole ⟨"title", .required⟩, .text "</b>",
    .hole ⟨"text", .fallback "<hr>"⟩]
  -- Both codeblocks name the one template, whose tokens are these.
  have htokens : ∀ rs, Settings.templateName {} rs = "note" →
      templateTokens loader {} rs = .ok tokens := by
    intro rs hname
    have hpath : Settings.templatePath {} "note" = "HTML/note.html" := by cbv
    have hscan : Template.Registry.standard.scan
        (Text.trim "<b>{{title}}</b>{{text|<hr>}}".toList) = .ok tokens := by cbv
    rw [templateTokens_eq_ok_iff, hname, hpath]
    refine ⟨by decide, _, rfl, ?_, rfl⟩
    rw [Template.Registry.outcome_tokenize, hscan]
  have hone : (forge one loader none {} {}).1 = .ok output := by
    rw [outcome_forge, outcome_forgeWork_eq_ok_iff]
    refine ⟨ps, tokens, hps, htokens ps (by decide), by decide, by decide⟩
  have hother : (forge other loader none {} {}).1 = .ok output' := by
    rw [outcome_forge, outcome_forgeWork_eq_ok_iff]
    refine ⟨qs, tokens, hqs, htokens qs (by decide), by decide, by decide⟩
  have hkeys : ∀ key, key ∈ ps.map Block.Property.key ↔ key ∈ qs.map Block.Property.key := by
    simp [ps, qs, or_comm]
  exact ⟨hps, hqs, hone, hother, (filter_isMarkup_forge hps hqs hkeys (by decide) hone hother).1⟩

end Stencil
