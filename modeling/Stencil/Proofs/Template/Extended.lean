import Mathlib.Data.List.Perm.Basic
import Stencil.Proofs.Template.Found
import Stencil.Proofs.Template.Places

/-!
# Further Forms

When it matters which forms a registry has, and in which order.

The order of forms decides which of two is read where both of them fit. Forms that
never fit at the same place can therefore stand in any order. The three forms
with two braces are such forms: what each of them fits is a placeholder as it may
be written, only one placeholder is written at a place, and its rule tells the
form. None of this depends on how a pattern goes about finding a fit.

A further form is preferred least. It is not asked before all others have failed,
so where it fits nowhere, the others are read as before. This includes what
goes wrong with them, since a find is of the same form as before, whatever
other names it could be asked about. What counts is the pattern in its place
beside the others, which for supported forms is the pattern on its own.

## Main definitions

* `Pattern.Occurs`: A pattern fits somewhere in a text.

## Theorems

* `findSome?_perm`: What is found first, if only one element finds anything.
* `Registry.tokenize_perm`: Forms that do not fit together can stand in any order.
* `Registry.eq_of_fit_standard`: No two forms with two braces fit at the same place.
* `Registry.exists_entry_of_extend`: A further form comes last.
* `Registry.tokenize_of_entries`: If it fits nowhere, it changes nothing.
* `Registry.tokenize_perm_and_extend`: Both, for the forms with two braces and for
  all further forms.
-/

namespace Stencil

namespace Pattern

/-- A pattern fits somewhere in a text. It may also fit an empty text, which counts. -/
def Occurs (p : Pattern) (text : List Char) : Prop :=
  ∃ before after, text = before ++ after ∧ (p.fit? false ⟨before.reverse, after, []⟩).isSome = true

/-- A pattern fits somewhere just if it does behind some number of characters. -/
theorem occurs_iff {p : Pattern} {text : List Char} : p.Occurs text ↔
    ∃ n < text.length + 1, (p.fit? false ⟨(text.take n).reverse, text.drop n, []⟩).isSome = true := by
  constructor
  · rintro ⟨before, after, rfl, hfit⟩
    refine ⟨before.length, by rw [List.length_append]; omega, ?_⟩
    rwa [List.take_left, List.drop_left]
  · rintro ⟨n, -, hfit⟩
    exact ⟨text.take n, text.drop n, (List.take_append_drop n text).symm, hfit⟩

instance (p : Pattern) (text : List Char) : Decidable (p.Occurs text) :=
  decidable_of_iff _ occurs_iff.symm

/-- Where something is found that has to cover something, something is found. -/
theorem isSome_fit?_of_isSome {p : Pattern} {mustCover : Bool} {c : Cursor}
    (h : (p.fit? mustCover c).isSome = true) : (p.fit? false c).isSome = true := by
  obtain ⟨d, hd⟩ := Option.isSome_iff_exists.1 h
  rw [fit?_eq_findSome?, List.findSome?_isSome_iff]
  exact ⟨d, (mem_results_of_fit? hd).1, by simp⟩

end Pattern

namespace Template

/-- Where only one element of a list finds anything, the order does not matter. Two neighbours
    that are exchanged do not both find something, unless they are the same. -/
theorem findSome?_perm {α β : Type} {l l' : List α} {f : α → Option β} (h : l.Perm l')
    (hone : ∀ a ∈ l, ∀ b ∈ l, (f a).isSome = true → (f b).isSome = true → a = b) :
    l.findSome? f = l'.findSome? f := by
  induction h with
  | nil => rfl
  | cons a h ih =>
      rw [List.findSome?_cons, List.findSome?_cons,
        ih fun b hb c hc => hone b (List.mem_cons_of_mem _ hb) c (List.mem_cons_of_mem _ hc)]
  | swap a b l =>
      simp only [List.findSome?_cons]
      cases ha : f a with
      | none => rfl
      | some x =>
          cases hb : f b with
          | none => rfl
          | some y =>
              have heq : b = a := hone b (by simp) a (by simp) (by simp [hb]) (by simp [ha])
              rw [heq, ha] at hb
              exact hb.symm
  | trans h _ ih ih' =>
      rw [ih hone]
      exact ih' fun a ha b hb => hone a (h.mem_iff.2 ha) b (h.mem_iff.2 hb)

namespace Registry

variable {r r' : Registry}

/-! ## The order of forms -/

/-- Local registries with the same forms, of which no two fit at the same place, give every
    template the same tokens. Locality is needed so that a form reads the same wherever it stands
    in the combined pattern, and the rest is that at no place there is a choice. -/
theorem tokenize_perm (hr : r.IsLocal) (hr' : r'.IsLocal) (h : r.entries.Perm r'.entries)
    (hone : ∀ one ∈ r.entries, ∀ other ∈ r.entries, ∀ c,
      (one.pattern.fit? false c).isSome = true → (other.pattern.fit? false c).isSome = true →
      one = other) (template : String) :
    r.tokenize template = r'.tokenize template := by
  refine tokenize_congr fun mustCover past s _ => ?_
  rw [hr.reads_eq, hr'.reads_eq]
  -- A form that reads something fits, also where it need not cover anything.
  have hfit : ∀ entry : Entry, (entry.reads mustCover past s).isSome = true →
      (entry.pattern.fit? false ⟨past, s, []⟩).isSome = true := by
    intro entry hreads
    rw [Entry.reads, Option.isSome_map] at hreads
    exact Pattern.isSome_fit?_of_isSome hreads
  exact findSome?_perm h fun one hone' other hother hfound hfound' =>
    hone one hone' other hother _ (hfit one hfound) (hfit other hfound')

/-- The way of building a placeholder that gives it a rule. -/
def buildOf : Rule → Build
  | .required => .required
  | .optional => .optional
  | .fallback _ => .fallback

/-- The rule of a placeholder tells how it was built. -/
theorem build_of_placeholder {form : Form} {captures : List (Option (List Char))}
    {p : Placeholder} (h : form.placeholder captures = .ok p) : form.build = buildOf p.rule := by
  obtain ⟨name, -, h⟩ := bind_eq_ok.1 h
  cases hbuild : form.build with
  | required | optional =>
      rw [hbuild] at h
      cases h
      rfl
  | fallback =>
      rw [hbuild] at h
      obtain ⟨text, -, h⟩ := bind_eq_ok.1 h
      cases h
      rfl

/-- No two forms with two braces fit at the same place. What one of them covers is a placeholder,
    a place has one placeholder at most, and the rule of that tells the form. -/
theorem eq_of_fit_standard {one other : Entry} (hone : one ∈ standard.entries)
    (hother : other ∈ standard.entries) {c : Pattern.Cursor}
    (h : (one.pattern.fit? false c).isSome = true)
    (h' : (other.pattern.fit? false c).isSome = true) : one = other := by
  -- Wherever a form fits, there is a placeholder that it builds.
  have hwritten : ∀ {entry : Entry}, entry ∈ standard.entries →
      (entry.pattern.fit? false c).isSome = true →
      ∃ p lexeme rest captures, Placeholder.Written p lexeme ∧ c.rest = lexeme ++ rest ∧
        entry.form.placeholder captures = .ok p := by
    intro entry hentry hfit
    obtain ⟨d, hd⟩ := Option.isSome_iff_exists.1 hfit
    rcases Pattern.exists_covers_of_fit? (isPlain_of_mem_standard hentry).1 hd with
      ⟨t, captured, hcovers, hrest⟩
    rcases written_of_covers hentry hcovers with ⟨p, hp, hplaceholder⟩
    exact ⟨p, t, d.rest, _, hp, hrest, hplaceholder⟩
  rcases hwritten hone h with ⟨p, lexeme, rest, captures, hp, hrest, hplaceholder⟩
  rcases hwritten hother h' with ⟨q, lexeme', rest', captures', hq, hrest', hplaceholder'⟩
  -- Both are the one placeholder that is written there.
  obtain ⟨rfl, -, -⟩ := hp.unique hq (hrest.symm.trans hrest')
  -- It has one rule, so both forms build in the same way, and the three forms do not.
  have hbuild := (build_of_placeholder hplaceholder).trans (build_of_placeholder hplaceholder').symm
  simp only [standard, List.mem_cons, List.not_mem_nil, or_false] at hone hother
  rcases hone with rfl | rfl | rfl <;> rcases hother with rfl | rfl | rfl <;>
    first | rfl | cases hbuild

/-! ## A further form -/

/-- A pattern is put in its place as it was read, if nothing depends on the place. -/
theorem eq_of_place {groups groups' : Pattern.Groups} {form : Form} {reading : Pattern.Reading}
    {entry : Entry} (h : place groups form reading = .ok (entry, groups')) :
    entry.form = form ∧ entry.pattern = reading.pattern ∧
      (reading.isLocal = true → entry.placed = entry.pattern) := by
  unfold place at h
  split at h
  · cases h
  · obtain ⟨placed, hplaced, h⟩ := bind_eq_ok.1 h
    cases h
    refine ⟨rfl, rfl, fun hlocal => ?_⟩
    rw [readInPlace, if_pos hlocal] at hplaced
    cases hplaced
    rfl

/-- The last pattern is put in its place after all the others. Only the groups of these matter to
    it, and nothing of it to them. -/
theorem exists_of_placeAll_concat {groups : Pattern.Groups}
    {checked : List (Form × Pattern.Reading)} {form : Form} {reading : Pattern.Reading}
    {entries' : List Entry} (h : placeAll groups (checked ++ [(form, reading)]) = .ok entries') :
    ∃ entries entry before after, placeAll groups checked = .ok entries ∧
      place before form reading = .ok (entry, after) ∧ entries' = entries ++ [entry] := by
  induction checked generalizing groups entries' with
  | nil =>
      obtain ⟨⟨entry, after⟩, hplace, h⟩ := bind_eq_ok.1 h
      cases h
      exact ⟨[], entry, groups, after, rfl, hplace, rfl⟩
  | cons f checked ih =>
      obtain ⟨⟨first, next⟩, hfirst, h⟩ := bind_eq_ok.1 h
      obtain ⟨rest', hrest, h⟩ := bind_eq_ok.1 h
      cases h
      rcases ih hrest with ⟨rest, entry, before, after, hothers, hplace, rfl⟩
      exact ⟨first :: rest, entry, before, after,
        bind_eq_ok.2 ⟨_, hfirst, bind_eq_ok.2 ⟨_, hothers, rfl⟩⟩, hplace, rfl⟩

/-- A further form comes last, and the entries before it are what they were. All patterns are read
    anew when a form is added, but each comes after the same groups as before. -/
theorem exists_entry_of_extend {forms : List Form} {form : Form} (hr : ofForms forms = .ok r)
    (hr' : r.extend form = .ok r') :
    ∃ entry, r'.entries = r.entries ++ [entry] ∧ entry.form = form ∧
      Pattern.ofSource form.source = .ok entry.pattern ∧
      (Pattern.isSupported form.source = true → entry.placed = entry.pattern) := by
  rw [extend, forms_ofForms hr] at hr'
  obtain ⟨checked', hchecked', hr'⟩ := bind_eq_ok.1 hr'
  obtain ⟨entries', hentries', hr'⟩ := bind_eq_ok.1 hr'
  cases hr'
  rw [checkAll_concat] at hchecked'
  obtain ⟨checked, hchecked, h⟩ := bind_eq_ok.1 hchecked'
  obtain ⟨reading, hreading, h⟩ := bind_eq_ok.1 h
  cases h
  rcases exists_of_placeAll_concat hentries' with
    ⟨entries, entry, before, after, hentries, hplace, rfl⟩
  -- The registry that is extended was made of the same forms, by the same steps.
  have heq : r = ⟨entries⟩ := by
    have hofForms : ofForms forms = .ok ⟨entries⟩ :=
      bind_eq_ok.2 ⟨_, hchecked, bind_eq_ok.2 ⟨_, hentries, rfl⟩⟩
    exact Except.ok.inj (hr.symm.trans hofForms)
  rcases eq_of_place hplace with ⟨hform, hpattern, hplaced⟩
  have hread := (check_eq_ok_iff.1 hreading).2.2.2
  refine ⟨entry, by rw [heq], hform, ?_, fun h => hplaced (Pattern.isLocal_of_isSupported h hread)⟩
  rw [Pattern.ofSource, hread, hpattern]
  rfl

/-- Which form a find is of is settled by the forms up to one that took part in it, so forms that
    come later can be left out, also if they have other names for groups. -/
theorem identify_append {names names' taken : List String} {text : List Char}
    {entries : List Entry} (more : List Entry)
    (hnames : ∀ entry ∈ entries, entry.form.name ∈ names ∧ entry.form.name ∈ names')
    (htaken : ∃ entry ∈ entries, entry.form.name ∈ taken) :
    identify ⟨names', taken, text⟩ (entries ++ more) = identify ⟨names, taken, text⟩ entries := by
  induction entries with
  | nil => simp at htaken
  | cons first entries ih =>
      rw [List.forall_mem_cons] at hnames
      have hknown : names.contains first.form.name = true := by simpa using hnames.1.1
      have hknown' : names'.contains first.form.name = true := by simpa using hnames.1.2
      simp only [List.cons_append, identify, hknown, hknown', Bool.not_true, Bool.false_eq_true,
        if_false]
      split
      · rfl
      · rename_i hfirst
        refine ih hnames.2 ?_
        rcases htaken with ⟨entry, hentry, hmem⟩
        rcases List.mem_cons.1 hentry with rfl | hentry
        · simp [hmem] at hfirst
        · exact ⟨entry, hentry, hmem⟩

/-- A form that fits nowhere in a template can come after all others, and nothing about the tokens
    changes. The combined pattern has more groups now, and the forms are asked about more names
    when a find is told apart, but that comes to the same form. -/
theorem tokenize_of_entries {entry : Entry} {template : String}
    (h : r'.entries = r.entries ++ [entry])
    (hnowhere : ¬ entry.placed.Occurs (Text.trim template.toList)) :
    r'.tokenize template = r.tokenize template := by
  refine tokenize_congr fun mustCover past s hs => ?_
  -- The further form is asked last, and it finds nothing.
  have hnone : entry.placed.fit? mustCover ⟨past, s, []⟩ = none := by
    rw [← Option.not_isSome_iff_eq_none]
    intro hfit
    refine hnowhere ⟨past.reverse, s, hs.symm, ?_⟩
    rw [List.reverse_reverse]
    exact Pattern.isSome_fit?_of_isSome hfit
  rw [reads, reads, findAt?, findAt?, h, List.findSome?_append, List.findSome?_singleton, hnone,
    Option.map_none, Option.or_none, List.map_findSome?, List.map_findSome?]
  refine Pattern.findSome?_congr fun one hone => ?_
  rw [Function.comp_apply, Function.comp_apply, Option.map_map, Option.map_map]
  refine congrFun (congrArg Option.map (funext fun c => ?_)) _
  -- A find of another form can be asked about one form more, but is of the same form.
  have hbuild : ∀ text, r'.build ⟨r'.groupNames, one.taken c, text⟩ =
      r.build ⟨r.groupNames, one.taken c, text⟩ := by
    intro text
    have hpart : one.form.name ∈ one.taken c := List.mem_cons_self
    have hnames : ∀ other ∈ r.entries,
        other.form.name ∈ r.groupNames ∧ other.form.name ∈ r'.groupNames :=
      fun other hother =>
        ⟨name_mem_groupNames hother, name_mem_groupNames (by simp [h, hother])⟩
    rw [build, build, h, identify_append [entry] hnames ⟨one, hone, hpart⟩]
  simp only [Function.comp_apply, hbuild]

/-! ## Both -/

/-- The three forms with two braces make a registry in any order, and each such registry gives
    every template the same tokens. That they go together does not depend on their order. -/
theorem exists_ofForms_of_perm {forms : List Form}
    (h : forms.Perm [.required, .optional, .fallback]) :
    ∃ r, ofForms forms = .ok r ∧ ∀ template, r.tokenize template = standard.tokenize template := by
  have hsupported : ∀ form ∈ [Form.required, .optional, .fallback],
      Pattern.isSupported form.source = true := by decide +kernel
  have hsupported' : ∀ form ∈ forms, Pattern.isSupported form.source = true :=
    fun form hform => hsupported form (h.mem_iff.1 hform)
  have hgo : GoTogether forms := by
    have hgo := (exists_ofForms_iff hsupported).1 ⟨_, ofForms_standard⟩
    exact ⟨fun form hform => hgo.isIdentifier form (h.mem_iff.1 hform),
      (h.map _).nodup_iff.2 hgo.names, (h.map _).nodup_iff.2 hgo.sources,
      fun form hform => hgo.readable form (h.mem_iff.1 hform)⟩
  rcases (exists_ofForms_iff hsupported').2 hgo with ⟨r, hr⟩
  rcases isLocal_of_ofForms hsupported' hr with ⟨hlocal, hentries⟩
  rcases isLocal_of_ofForms hsupported ofForms_standard with ⟨hstandard, hentries'⟩
  -- The entries are those of the forms, in their order.
  have hperm : standard.entries.Perm r.entries := by
    rw [hentries, hentries']
    exact (h.map _).symm
  exact ⟨r, hr, fun template => (tokenize_perm hstandard hlocal hperm
    (fun one hone other hother c => eq_of_fit_standard hone hother) template).symm⟩

/-- The three forms with two braces can stand in any order, and a further form that
    fits nowhere in a template changes nothing about its tokens, nor about what
    goes wrong with them. A supported form has the same pattern on its own and beside
    others; of any other form it is the pattern in its place that counts. -/
theorem tokenize_perm_and_extend :
    (∀ forms : List Form, forms.Perm [.required, .optional, .fallback] →
      ∃ r, ofForms forms = .ok r ∧
        ∀ template, r.tokenize template = standard.tokenize template) ∧
    ∀ (forms : List Form) (form : Form) (r r' : Registry), ofForms forms = .ok r →
      r.extend form = .ok r' →
      ∃ entry, r'.entries = r.entries ++ [entry] ∧ entry.form = form ∧
        Pattern.ofSource form.source = .ok entry.pattern ∧
        (Pattern.isSupported form.source = true → entry.placed = entry.pattern) ∧
        ∀ template, ¬ entry.placed.Occurs (Text.trim template.toList) →
          r'.tokenize template = r.tokenize template := by
  refine ⟨fun forms => exists_ofForms_of_perm, fun forms form r r' hr hr' => ?_⟩
  rcases exists_entry_of_extend hr hr' with ⟨entry, hentries, hform, hpattern, hplaced⟩
  exact ⟨entry, hentries, hform, hpattern, hplaced, fun template => tokenize_of_entries hentries⟩

/-- The forms in another order, and with names in angle brackets besides. An angle
    bracket alone is no such name. -/
theorem tokenize_perm_and_extend_angled :
    let angled : Form := ⟨"angled", "<([a-z]+)>", .required⟩
    let template := "1 < 2 \x7b\x7b name | x \x7d\x7d"
    (∃ r, ofForms [.fallback, .required, .optional] = .ok r ∧
      r.tokenize template = standard.tokenize template) ∧
    ∃ r, standard.extend angled = .ok r ∧ r.tokenize template = standard.tokenize template := by
  intro angled template
  constructor
  · have hperm : [Form.fallback, .required, .optional].Perm [.required, .optional, .fallback] := by
      decide
    rcases tokenize_perm_and_extend.1 _ hperm with ⟨r, hr, htokens⟩
    exact ⟨r, hr, htokens template⟩
  · let p : Pattern :=
      .inOrder [.char '<', .group 1 (.run (.of [.range 'a' 'z']) 1 none), .char '>']
    have hp : Pattern.ofSource angled.source = .ok p := by decide +kernel
    have hsupported : ∀ form ∈ [.required, .optional, .fallback] ++ [angled],
        Pattern.isSupported form.source = true := by decide +kernel
    have hgo : GoTogether ([.required, .optional, .fallback] ++ [angled]) := by
      have hgo := (exists_ofForms_iff fun form hform =>
        hsupported form (List.mem_append_left _ hform)).1 ⟨_, ofForms_standard⟩
      exact goTogether_concat_iff.2 ⟨hgo, by decide +kernel, by decide, by decide, p, hp⟩
    rcases (exists_ofForms_iff hsupported).2 hgo with ⟨r, hr⟩
    rcases tokenize_perm_and_extend.2 _ angled _ r ofForms_standard hr with
      ⟨entry, -, -, hpattern, hplaced, htokens⟩
    refine ⟨r, hr, htokens template ?_⟩
    have hangled : Pattern.isSupported angled.source = true := hsupported angled (by simp)
    rw [hplaced hangled, Except.ok.inj (hpattern.symm.trans hp)]
    decide +kernel

end Registry

end Template

end Stencil
