import Stencil.Proofs.Block.Joined
import Stencil.Renderer
import Stencil.Template.Fill

/-!
# What Filling Depends On

Which values a template asks for, and what it makes of them.

Filling looks up the name of each placeholder and nothing else. Values that
agree on these names give the same output, or the same failure with the same
names in it, however many other values there are and in whatever order.

The values of a codeblock are found by its keys. They are rendered before they
are looked up, but rendering keeps the keys, so what is found is the rendered
value of the property that is found. With distinct keys the two orders of
looking, first from the front and first from the back, find the same.

## Theorems

* `outcome_fill_congr`: Filling depends on the values of the names in the tokens.
* `get?_properties`: The rendered value of a name.
-/

namespace Stencil.Template

section Congruence

variable {values values' : Values} {tokens : List Token}

theorem fill?_congr (h : ∀ p, .hole p ∈ tokens → values.get? p.name = values'.get? p.name) :
    ∀ token ∈ tokens, fill? values token = fill? values' token := by
  intro token htoken
  cases token with
  | text content => rfl
  | hole p => rw [fill?, fill?, h p htoken]

/-- Filling depends on the values of the names in the tokens, and on no others. -/
theorem outcome_fill_congr
    (h : ∀ p, .hole p ∈ tokens → values.get? p.name = values'.get? p.name) :
    (fill tokens values).outcome = (fill tokens values').outcome := by
  have hfill := fill?_congr h
  have hmissing : missing values tokens = missing values' tokens := by
    rw [missing, missing]
    congr 1
    refine List.filterMap_congr fun token htoken => ?_
    rw [hfill token htoken]
  rw [outcome_fill, outcome_fill, hmissing, List.filterMap_congr hfill]

end Congruence

/-! ## Values of properties -/

/-- The value of a name is that of the property that has the name as its key. -/
theorem Values.get?_ofProperties_eq_some_iff {ps : List Block.Property}
    (h : (ps.map Block.Property.key).Nodup) {name value : String} :
    (Values.ofProperties ps).get? name = some value ↔ ⟨name, value⟩ ∈ ps := by
  constructor
  · exact Values.mem_of_get?_ofProperties
  · intro hmem
    -- Some property with the key is found, and there is only one.
    cases hfound : (Values.ofProperties ps).get? name with
    | none =>
        have hkey : name ∈ ps.map Block.Property.key := List.mem_map_of_mem hmem
        exact absurd hkey (Values.get?_ofProperties_eq_none_iff.1 hfound)
    | some found =>
        have hfound := Values.mem_of_get?_ofProperties hfound
        have hsame := List.inj_on_of_nodup_map h hfound hmem rfl
        rw [Block.Property.mk.injEq] at hsame
        rw [hsame.2]

/-- The value of a name is the rendered value of the property that is found by it. Keys are not
    rendered, so it makes no difference whether a property is looked up before or after all values
    are rendered. -/
theorem Values.get?_properties {ps : List Block.Property} (h : (ps.map Block.Property.key).Nodup)
    (renderer : Renderer) (name : String) :
    (Values.ofProperties (renderer.properties ps)).get? name =
      (ps.find? (·.key = name)).map fun p => renderer.render p.value := by
  cases hfind : ps.find? (·.key = name) with
  | none =>
      rw [Option.map_none, Values.get?_ofProperties_eq_none_iff, Renderer.map_key_properties]
      exact Block.find?_key_eq_none_iff.1 hfind
  | some p =>
      have hkeys : ((renderer.properties ps).map Block.Property.key).Nodup := by
        rwa [Renderer.map_key_properties]
      rw [Option.map_some, Values.get?_ofProperties_eq_some_iff hkeys]
      rcases (Block.find?_key_eq_some_iff h).1 hfind with ⟨hmem, rfl⟩
      exact List.mem_map.2 ⟨p, hmem, rfl⟩

end Stencil.Template
