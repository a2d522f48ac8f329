import Mathlib
import Stencil.Proofs.Block.Joined
import Stencil.Proofs.Block.RoundTrip
import Stencil.Proofs.Pipeline.Outcome
import Stencil.Proofs.Template.Filled

/-!
# The Order of Properties

Which properties of a codeblock have a say in its output, and that their order
has none.

After parsing, properties are only looked up by their keys: by the key that
names the template, and by the names of the placeholders in that template.
`forgeProperties` is what happens from there on, and `forgeProperties_congr`
says that properties for which these lookups agree have the same outcome. This
includes the failures, as the names that they report are those of the template,
in the order of the template.

Two codeblocks that are written one below the other declare the properties of
both. Which one comes first makes no difference to a lookup, because keys are
distinct; and a property that is never looked up can be left out.

## Main definitions

* `forgeProperties`: What is made of properties.

## Theorems

* `outcome_forgeWork_eq`: Forging is parsing and then looking up.
* `forgeProperties_congr`: Properties have a say where they are looked up.
* `outcome_forge_append`: Codeblocks below each other, in either order.
-/

namespace Stencil

/-- What is made of the properties of a codeblock. A source comes into a run only by these, so
    what holds of it for lists with the same lookups holds of sources. -/
def forgeProperties (loader : Files.Loader) (renderer : Option Renderer) (settings : Settings)
    (ps : List Block.Property) : Except Failure String := do
  let tokens ← templateTokens loader settings ps
  let rendered := (renderer.getD (.wrap settings.markdownClass)).properties ps
  (Template.fill tokens (.ofProperties rendered)).outcome.mapError .template

variable {loader : Files.Loader} {renderer : Option Renderer} {settings : Settings}

/-- Forging is parsing, and what is made of the properties. -/
theorem outcome_forgeWork_eq (source : String) :
    (forgeWork source loader renderer settings).outcome =
      (Block.parse source false).outcome.mapError .block >>=
        forgeProperties loader renderer settings :=
  outcome_forgeWork source loader renderer settings

/-- Forging a source that is a codeblock. -/
theorem outcome_forge_of_parse {source : String} {ps : List Block.Property}
    (h : (Block.parse source false).outcome = .ok ps) (journal : Journal) :
    (forge source loader renderer settings journal).1 =
      forgeProperties loader renderer settings ps := by
  rw [outcome_forge, outcome_forgeWork_eq, h]
  rfl

/-- Properties have a say in what is made of them where they are looked up: by the
    key that names the template, and by the names in the template. -/
theorem forgeProperties_congr {ps qs : List Block.Property}
    (hps : (ps.map Block.Property.key).Nodup) (hqs : (qs.map Block.Property.key).Nodup)
    (htemplate : ps.find? (·.key = settings.templateKey) = qs.find? (·.key = settings.templateKey))
    (hnames : ∀ tokens p, templateTokens loader settings ps = .ok tokens → .hole p ∈ tokens →
      ps.find? (·.key = p.name) = qs.find? (·.key = p.name)) :
    forgeProperties loader renderer settings ps = forgeProperties loader renderer settings qs := by
  have htokens : templateTokens loader settings ps = templateTokens loader settings qs :=
    templateTokens_congr (templateName_congr (by rw [htemplate]))
  unfold forgeProperties
  rw [← htokens]
  cases hok : templateTokens loader settings ps with
  | error failure => rfl
  | ok tokens =>
      rw [ok_bind, ok_bind]
      -- The names in the tokens have the same values, so the tokens are filled alike.
      refine congrArg (Except.mapError Failure.template)
        (Template.outcome_fill_congr fun p hp => ?_)
      rw [Template.Values.get?_properties hps, Template.Values.get?_properties hqs,
        hnames tokens p hok hp]

/-- Properties whose keys no lookup asks for can be left out: the values of the template are the
    same without them. -/
theorem forgeProperties_append {ps qs : List Block.Property}
    (hkeys : ((ps ++ qs).map Block.Property.key).Nodup)
    (htemplate : settings.templateKey ∉ qs.map Block.Property.key)
    (hnames : ∀ tokens p, templateTokens loader settings ps = .ok tokens → .hole p ∈ tokens →
      p.name ∉ qs.map Block.Property.key) :
    forgeProperties loader renderer settings (ps ++ qs) =
      forgeProperties loader renderer settings ps := by
  -- A lookup for a key that the properties behind do not have stops in front of them or finds
  -- nothing.
  have hleft : ∀ {key : String}, key ∉ qs.map Block.Property.key →
      ps.find? (·.key = key) = (ps ++ qs).find? (·.key = key) := by
    intro key hkey
    rw [List.find?_append, Block.find?_key_eq_none_iff.2 hkey, Option.or_none]
  have hps : (ps.map Block.Property.key).Nodup := by
    rw [List.map_append] at hkeys
    exact hkeys.of_append_left
  exact (forgeProperties_congr hps hkeys (hleft htemplate)
    fun tokens p htokens hp => hleft (hnames tokens p htokens hp)).symm

/-- Codeblocks of different keys have the same outcome one below the other as the other way round.
    Below a codeblock, another one makes no difference if it neither names a template nor declares
    what the template of the first one has a placeholder for.

    This holds of failures as well, since in either order the same properties are looked up. What
    the order of the properties could show in is only the first property of a key, and each key
    has one. -/
theorem outcome_forge_append {one other : String} {ps qs : List Block.Property}
    {journal journal' : Journal} (hone : Text.strip one = one) (hother : Text.strip other = other)
    (hps : (Block.parse one false).outcome = .ok ps)
    (hqs : (Block.parse other false).outcome = .ok qs)
    (hkeys : ∀ key ∈ ps.map Block.Property.key, key ∉ qs.map Block.Property.key) :
    (forge (one ++ "\n" ++ other) loader renderer settings journal).1 =
      (forge (other ++ "\n" ++ one) loader renderer settings journal').1 ∧
    (settings.templateKey ∉ qs.map Block.Property.key →
      (∀ text tokens p, templateText loader settings ps = .ok text →
        (Template.Registry.standard.tokenize text).outcome = .ok tokens → .hole p ∈ tokens →
        p.name ∉ qs.map Block.Property.key) →
      (forge (one ++ "\n" ++ other) loader renderer settings journal).1 =
        (forge one loader renderer settings journal').1) := by
  have hdistinct : ((ps ++ qs).map Block.Property.key).Nodup := by
    rw [List.map_append]
    exact (Block.wellFormed_of_parse hps).distinct.append (Block.wellFormed_of_parse hqs).distinct
      fun key hkey hkey' => hkeys key hkey hkey'
  -- No key is declared twice, so both texts are codeblocks and their properties are permutations
  -- of each other.
  have hperm : (ps ++ qs).Perm (qs ++ ps) := List.perm_append_comm
  have hdistinct' : ((qs ++ ps).map Block.Property.key).Nodup :=
    (hperm.map Block.Property.key).nodup_iff.1 hdistinct
  have hboth : (Block.parse (one ++ "\n" ++ other) false).outcome = .ok (ps ++ qs) := by
    rw [Block.outcome_parse_append hone hother hps hqs, if_pos hdistinct]
  have hboth' : (Block.parse (other ++ "\n" ++ one) false).outcome = .ok (qs ++ ps) := by
    rw [Block.outcome_parse_append hother hone hqs hps, if_pos hdistinct']
  rw [outcome_forge_of_parse hboth]
  constructor
  · rw [outcome_forge_of_parse hboth']
    exact forgeProperties_congr hdistinct hdistinct' (Block.find?_key_of_perm hdistinct hperm)
      fun tokens p htokens hp => Block.find?_key_of_perm hdistinct hperm
  · intro htemplate hnames
    rw [outcome_forge_of_parse hps]
    refine forgeProperties_append hdistinct htemplate fun tokens p htokens hp => ?_
    -- The tokens that forging uses are those of the text that it loads.
    rcases templateTokens_eq_ok_iff.1 htokens with ⟨hname, text, hload, htokenize, -⟩
    exact hnames text tokens p (templateText_eq_ok_iff.2 ⟨hname, hload⟩) htokenize hp

/-- The second codeblock holds a line in fences that looks like the declaration of
    a template. It declares nothing that the template has a placeholder for. -/
theorem outcome_forge_append_fenced :
    let loader := Files.Loader.ofEntries
      [("HTML/note.html", "<b>{{title}}</b>{{text|<hr>}}")]
    let one := "template: note\ntitle: One"
    let other := "code: x\n```\ntemplate: other\n```"
    let ps : List Block.Property := [⟨"template", "note"⟩, ⟨"title", "One"⟩]
    let qs : List Block.Property := [⟨"code", "x\n```\ntemplate: other\n```"⟩]
    (Block.parse one false).outcome = .ok ps ∧ (Block.parse other false).outcome = .ok qs ∧
      (forge (one ++ "\n" ++ other) loader none {} {}).1 =
        (forge (other ++ "\n" ++ one) loader none {} {}).1 ∧
      (forge (one ++ "\n" ++ other) loader none {} {}).1 = (forge one loader none {} {}).1 := by
  intro loader one other ps qs
  have hps : (Block.parse one false).outcome = .ok ps := by
    rw [Block.Parser.outcome_parse_eq, if_neg (by decide)]
    decide
  have hqs : (Block.parse other false).outcome = .ok qs := by
    rw [Block.Parser.outcome_parse_eq, if_neg (by decide)]
    decide
  have happend := @outcome_forge_append loader none {} one other ps qs {} {} (by decide)
    (by decide) hps hqs (by decide)
  refine ⟨hps, hqs, happend.1, happend.2 (by decide) fun text tokens p htext htokens hp => ?_⟩
  have hpath : Settings.templatePath {} (Settings.templateName {} ps) = "HTML/note.html" := by cbv
  have hscan : Template.Registry.standard.scan
      (Text.trim "<b>{{title}}</b>{{text|<hr>}}".toList) = .ok [.text "<b>",
        .hole ⟨"title", .required⟩, .text "</b>", .hole ⟨"text", .fallback "<hr>"⟩] := by cbv
  rw [templateText_eq_ok_iff, hpath] at htext
  obtain rfl : "<b>{{title}}</b>{{text|<hr>}}" = text := Except.ok.inj htext.2
  rw [Template.Registry.outcome_tokenize, hscan] at htokens
  obtain rfl := Except.ok.inj htokens
  have hholes : p = ⟨"title", .required⟩ ∨ p = ⟨"text", .fallback "<hr>"⟩ := by simpa using hp
  rcases hholes with rfl | rfl
  · decide
  · decide

end Stencil
