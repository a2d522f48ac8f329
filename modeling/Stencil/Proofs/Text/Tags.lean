import Stencil.Text.Markup

/-!
# Tags in Written Text

Reading a text with tags, and how a text has to be written to be read.

`readPieces` takes a text apart at its angle brackets and knows nothing of how it
was put together. It gives up at a bracket that belongs to no tag, and
`nested` checks afterwards that tags close in the reverse of the order in which
they were opened. So whatever a text shows is what is left when its tags are
dropped and its entities are read, once.

`Writes` is the grammar of texts that are put together well: characters that are
written so that no bracket of theirs is left, elements around such texts, and one such
text after the other. A text that is not finished is not among them, but whoever
knows what will come before and after it can say that the whole is.

A text that follows the grammar is read as what it was put together from, whatever comes
after it. This is what makes the induction go through: `ReadsAs` says of each half of
what a reader does, the tags and the characters, what it comes to before the rest is
read, so that a longer text is read by reading its parts.

## Main definitions

* `Piece`, `readPieces`: Characters and tags, and how they are found in a text.
* `nested`: Tags close what was opened last.
* `readEntities`: The characters that a text with entities shows.
* `Shows`: A text is made of certain tags, in order, and shows a text.
* `Stands`: How a character may be written.
* `Writes`: How a text with tags may be written.
* `ReadsAs`: What a text is read as, whatever comes after it.
* `WritesWith`: How a text with tags of certain kinds may be written.

## Theorems

* `Writes.exists_readsAs`: A text that is put together well is read.
* `Writes.shows`: It shows what was written.
* `Writes.replaced`: A text may be written by replacing characters.
-/

namespace Stencil.Text

/-! ## Pieces -/

/-- What a text with tags is made of. Entities are not among the pieces: they are read when the
    tags are gone. -/
inductive Piece where
  /-- A character between tags. -/
  | char (c : Char)
  /-- An opening tag, as it is written between the angle brackets. -/
  | opening (inside : List Char)
  /-- A closing tag of the given name. -/
  | closing (name : List Char)
deriving DecidableEq, Repr

namespace Piece

/-- The tag that is written between two angle brackets. -/
def ofInside : List Char → Piece
  | '/' :: name => closing name
  | inside => opening inside

/-- The character that a piece is, if it is one. -/
def char? : Piece → Option Char
  | char c => some c
  | _ => none

/-- What is written in an opening tag, if a piece is one. -/
def inside? : Piece → Option (List Char)
  | opening inside => some inside
  | _ => none

end Piece

/-- The pieces of a text, if every angle bracket belongs to a tag; within a tag,
    what was read of it comes first. -/
def readPieces : Option (List Char) → List Char → Option (List Piece)
  | none, [] => some []
  | some _, [] => none
  | none, c :: s =>
    if c = '<' then readPieces (some []) s
    else if c = '>' then none
    else (readPieces none s).map (.char c :: ·)
  | some inside, c :: s =>
    if c = '<' then none
    else if c = '>' then (readPieces none s).map (.ofInside inside :: ·)
    else readPieces (some (inside ++ [c])) s

/-- Whether each closing tag has the name of the tag that was opened last and not
    closed yet, and all are closed in the end; the names come first. -/
def nested : List (List Char) → List Piece → Bool
  | names, [] => names.isEmpty
  | names, .char _ :: ps => nested names ps
  | names, .opening inside :: ps => nested (inside.takeWhile (· != ' ') :: names) ps
  | [], .closing _ :: _ => false
  | name :: names, .closing closed :: ps => name == closed && nested names ps

theorem nested_chars (names : List (List Char)) (s : List Char) (ps : List Piece) :
    nested names (s.map .char ++ ps) = nested names ps := by
  induction s with
  | nil => rfl
  | cons c s ih => exact ih

/-- Text between tags is read as its characters. -/
theorem readPieces_append_chars {s : List Char} (h : ∀ c ∈ s, c ≠ '<' ∧ c ≠ '>')
    (rest : List Char) :
    readPieces none (s ++ rest) = (readPieces none rest).map (s.map .char ++ ·) := by
  induction s with
  | nil => simp
  | cons c s ih =>
      rcases h c List.mem_cons_self with ⟨hopen, hclose⟩
      rw [List.cons_append, readPieces, if_neg hopen, if_neg hclose,
        ih fun d hd => h d (List.mem_cons_of_mem _ hd), Option.map_map]
      rfl

/-- A tag is read as what is written between its angle brackets. -/
theorem readPieces_append_inside {s : List Char} (h : ∀ c ∈ s, c ≠ '<' ∧ c ≠ '>')
    (inside rest : List Char) :
    readPieces (some inside) (s ++ '>' :: rest) =
      (readPieces none rest).map (.ofInside (inside ++ s) :: ·) := by
  induction s generalizing inside with
  | nil => rw [List.nil_append, readPieces, if_neg (by decide), if_pos rfl, List.append_nil]
  | cons c s ih =>
      rcases h c List.mem_cons_self with ⟨hopen, hclose⟩
      rw [List.cons_append, readPieces, if_neg hopen, if_neg hclose,
        ih fun d hd => h d (List.mem_cons_of_mem _ hd), List.append_assoc, List.singleton_append]

/-! ## Entities -/

/-- The entities that a reader knows. For one of the quotes there are two, as its number
    can be written in two bases. -/
def knownEntities : List (Char × List Char) :=
  entities ++ [('\'', "&#39;".toList)]

/-- The text with all known entities replaced by their characters, each once and from left
    to right. -/
def readEntities : List Char → List Char
  | '&' :: 'a' :: 'm' :: 'p' :: ';' :: s => '&' :: readEntities s
  | '&' :: 'l' :: 't' :: ';' :: s => '<' :: readEntities s
  | '&' :: 'g' :: 't' :: ';' :: s => '>' :: readEntities s
  | '&' :: 'q' :: 'u' :: 'o' :: 't' :: ';' :: s => '"' :: readEntities s
  | '&' :: '#' :: 'x' :: '2' :: '7' :: ';' :: s => '\'' :: readEntities s
  | '&' :: '#' :: '3' :: '9' :: ';' :: s => '\'' :: readEntities s
  | c :: s => c :: readEntities s
  | [] => []

/-- A text stands for a character if it is an entity of it, or the character itself and
    that has no meaning between tags. -/
def Stands (s : List Char) (c : Char) : Prop :=
  (c, s) ∈ knownEntities ∨ s = [c] ∧ c ∉ ['&', '<', '>']

/-- There are no angle brackets in what stands for a character. -/
theorem Stands.bracket_notMem {s : List Char} {c : Char} (h : Stands s c) :
    ∀ d ∈ s, d ≠ '<' ∧ d ≠ '>' := by
  rcases h with hentity | ⟨rfl, hplain⟩
  · have hsafe : ∀ entry ∈ knownEntities, ∀ d ∈ entry.2, d ≠ '<' ∧ d ≠ '>' := by
      simp [knownEntities, entities]
    exact hsafe _ hentity
  · simp_all

/-- What stands for a character is read as the character, whatever comes after it. An entity ends
    with its semicolon, so nothing that follows can become part of it. -/
theorem Stands.readEntities_append {s : List Char} {c : Char} (h : Stands s c) (t : List Char) :
    readEntities (s ++ t) = c :: readEntities t := by
  rcases h with hentity | ⟨rfl, hplain⟩
  · simp only [knownEntities, entities, List.cons_append, List.nil_append, List.mem_cons,
      List.not_mem_nil, or_false, Prod.mk.injEq] at hentity
    rcases hentity with ⟨rfl, rfl⟩ | ⟨rfl, rfl⟩ | ⟨rfl, rfl⟩ | ⟨rfl, rfl⟩ | ⟨rfl, rfl⟩ | ⟨rfl, rfl⟩
    all_goals simp [readEntities]
  · have hne : c ≠ '&' := fun heq => hplain (by simp [heq])
    rw [List.singleton_append, readEntities] <;> simp_all

/-- Where ampersands and angle brackets are replaced, and all characters that are replaced
    are so by entities of theirs, everything stands for itself. -/
theorem stands_replaced {table : List (Char × List Char)}
    (hknown : ∀ entry ∈ table, entry ∈ knownEntities)
    (hspecial : ∀ c ∈ ['&', '<', '>'], c ∈ table.map Prod.fst) (c : Char) :
    Stands (replaced table c) c := by
  rcases replaced_cases table c with hentity | ⟨hself, hplain⟩
  · exact .inl (hknown _ hentity)
  · exact .inr ⟨hself, fun hmem => hplain (hspecial c hmem)⟩

/-! ## Tags -/

namespace Tag

/-- A tag whose names are made of letters, and whose attributes end where their quotes
    say so. -/
structure IsPlain (t : Tag) : Prop where
  name : ∀ c ∈ t.name.toList, c.isAlpha
  attributes : ∀ a ∈ t.attributes, ∀ c ∈ a.1.toList, c.isAlpha
  values : ∀ a ∈ t.attributes, ∀ c ∈ a.2.toList, c ∉ ['<', '>', '"']

/-- Whether a tag is plain; the characters of its texts are gone through, and not all
    characters that there are. -/
def isPlain (t : Tag) : Bool :=
  t.name.toList.all Char.isAlpha && (t.attributes.all fun a => a.1.toList.all Char.isAlpha) &&
    t.attributes.all fun a => a.2.toList.all fun c => decide (c ∉ ['<', '>', '"'])

theorem isPlain_iff {t : Tag} : t.isPlain = true ↔ t.IsPlain := by
  simp only [isPlain, Bool.and_eq_true, List.all_eq_true, decide_eq_true_eq]
  exact ⟨fun h => ⟨h.1.1, h.1.2, h.2⟩, fun h => ⟨⟨h.name, h.attributes⟩, h.values⟩⟩

instance : DecidablePred IsPlain := fun _ =>
  decidable_of_iff _ isPlain_iff

/-- A letter is none of the characters that have a meaning around tags. -/
theorem ne_of_isAlpha {c : Char} (h : c.isAlpha) : c ≠ '<' ∧ c ≠ '>' ∧ c ≠ ' ' ∧ c ≠ '/' := by
  refine ⟨?_, ?_, ?_, ?_⟩
  all_goals
    rintro rfl
    revert h
    decide

variable {t : Tag}

/-- A tag holds no angle brackets, as its names and its values do not. So the first closing
    bracket after its start is its end. -/
theorem IsPlain.bracket_notMem (h : t.IsPlain) : ∀ c ∈ t.written, c ≠ '<' ∧ c ≠ '>' := by
  intro c hc
  rw [written, List.mem_append, List.mem_flatMap] at hc
  rcases hc with hname | ⟨a, ha, hc⟩
  · exact ⟨(ne_of_isAlpha (h.name c hname)).1, (ne_of_isAlpha (h.name c hname)).2.1⟩
  · simp only [List.mem_cons, List.mem_append, List.not_mem_nil, or_false] at hc
    rcases hc with rfl | hname | rfl | rfl | hvalue | rfl
    · decide
    · have halpha := h.attributes a ha c hname
      exact ⟨(ne_of_isAlpha halpha).1, (ne_of_isAlpha halpha).2.1⟩
    · decide
    · decide
    · have hplain := h.values a ha c hvalue
      simp only [List.mem_cons, List.not_mem_nil, or_false, not_or] at hplain
      exact ⟨hplain.1, hplain.2.1⟩
    · decide

/-- The name of a tag ends where a blank follows, or nothing. -/
theorem IsPlain.takeWhile_written (h : t.IsPlain) :
    t.written.takeWhile (· != ' ') = t.name.toList := by
  have hname : ∀ c ∈ t.name.toList, (c != ' ') = true := by
    intro c hc
    rw [bne_iff_ne]
    exact (ne_of_isAlpha (h.name c hc)).2.2.1
  rw [written, List.takeWhile_append_of_pos hname]
  cases t.attributes with
  | nil => rw [List.flatMap_nil, List.takeWhile_nil, List.append_nil]
  | cons a attributes => rw [List.flatMap_cons, List.cons_append, List.takeWhile_cons_of_neg
      (by decide), List.append_nil]

/-- A tag is read as an opening one: it does not start with a slash. -/
theorem IsPlain.ofInside_written (h : t.IsPlain) :
    Piece.ofInside t.written = .opening t.written := by
  -- A name may be empty, and then the first character is a blank or there is none.
  have hhead : ∀ c ∈ t.written.head?, c ≠ '/' := by
    intro c hc
    rw [written] at hc
    cases hname : t.name.toList with
    | cons d s =>
        rw [hname] at hc
        obtain rfl : d = c := Option.some.inj hc
        exact (ne_of_isAlpha (h.name d (by rw [hname]; exact List.mem_cons_self))).2.2.2
    | nil =>
        rw [hname] at hc
        cases hattributes : t.attributes with
        | nil =>
            rw [hattributes] at hc
            cases hc
        | cons a attributes =>
            rw [hattributes] at hc
            obtain rfl : ' ' = c := Option.some.inj hc
            decide
  cases hwritten : t.written with
  | nil => rfl
  | cons c s =>
      have hslash : c ≠ '/' := hhead c (by rw [hwritten]; rfl)
      unfold Piece.ofInside
      split
      · rename_i heq
        exact absurd (List.cons.inj heq).1 hslash
      · rfl

end Tag

/-! ## Texts that are put together well -/

/-- How a text with tags may be written: the tags that are opened in it, in order, the
    text, and what it shows. -/
inductive Writes : List Tag → List Char → List Char → Prop
  | nil : Writes [] [] []
  /-- A character between tags. -/
  | char {s : List Char} {c : Char} (h : Stands s c) : Writes [] s [c]
  /-- An element around such a text. -/
  | element {t : Tag} {tags : List Tag} {written shown : List Char} (ht : t.IsPlain)
      (h : Writes tags written shown) :
      Writes (t :: tags) (t.opening ++ written ++ t.closing) shown
  /-- One such text after the other. -/
  | append {tags tags' : List Tag} {written written' shown shown' : List Char}
      (h : Writes tags written shown) (h' : Writes tags' written' shown') :
      Writes (tags ++ tags') (written ++ written') (shown ++ shown')

/-- What a text with certain tags, which shows a text, is read as, whatever comes after
    it. -/
structure ReadsAs (tags : List Tag) (written shown : List Char) (pieces : List Piece) :
    Prop where
  /-- The pieces of the text come before those of the rest. -/
  reads : ∀ rest, readPieces none (written ++ rest) = (readPieces none rest).map (pieces ++ ·)
  /-- All that is opened is closed again, whatever was open before. -/
  closes : ∀ names ps, nested names (pieces ++ ps) = nested names ps
  opens : pieces.filterMap Piece.inside? = tags.map Tag.written
  /-- No entity goes over the end of the text. -/
  shows : ∀ rest, readEntities (pieces.filterMap Piece.char? ++ rest) =
    shown ++ readEntities rest

theorem readsAs_nil : ReadsAs [] [] [] [] where
  reads rest := by simp
  closes names ps := rfl
  opens := rfl
  shows rest := rfl

theorem Stands.readsAs {s : List Char} {c : Char} (h : Stands s c) :
    ReadsAs [] s [c] (s.map .char) where
  reads rest := readPieces_append_chars h.bracket_notMem rest
  closes names ps := nested_chars names s ps
  opens := by
    rw [List.filterMap_map, List.map_nil, List.filterMap_eq_nil_iff]
    exact fun d _ => rfl
  shows rest := by
    have hchars : (s.map Piece.char).filterMap Piece.char? = s := by
      rw [List.filterMap_map]
      exact List.filterMap_some
    rw [hchars, h.readEntities_append]
    rfl

namespace ReadsAs

variable {tags tags' : List Tag} {written written' shown shown' : List Char}
  {pieces pieces' : List Piece}

/-- An element is its tag, what it holds, and the end of it. -/
theorem element (h : ReadsAs tags written shown pieces) {t : Tag} (ht : t.IsPlain) :
    ReadsAs (t :: tags) (t.opening ++ written ++ t.closing) shown
      (.opening t.written :: (pieces ++ [.closing t.name.toList])) where
  reads rest := by
    have hclosing : ∀ c ∈ '/' :: t.name.toList, c ≠ '<' ∧ c ≠ '>' := by
      intro c hc
      rcases List.mem_cons.1 hc with rfl | hc
      · decide
      · have halpha := Tag.ne_of_isAlpha (ht.name c hc)
        exact ⟨halpha.1, halpha.2.1⟩
    -- It is read bracket by bracket: the tag, what it holds, and the end of it.
    have hwritten : t.opening ++ written ++ t.closing ++ rest =
        '<' :: (t.written ++ '>' :: (written ++ '<' :: ('/' :: t.name.toList ++ '>' :: rest))) := by
      simp [Tag.opening, Tag.closing]
    rw [hwritten, readPieces, if_pos rfl, readPieces_append_inside ht.bracket_notMem, h.reads,
      readPieces, if_pos rfl, readPieces_append_inside hclosing, List.nil_append, List.nil_append,
      ht.ofInside_written]
    cases readPieces none rest with
    | none => rfl
    | some ps => simp [Piece.ofInside]
  closes names ps := by
    rw [List.cons_append, Text.nested, ht.takeWhile_written, List.append_assoc, h.closes,
      List.singleton_append, Text.nested, beq_self_eq_true, Bool.true_and]
  opens := by simp [Piece.inside?, h.opens]
  shows rest := by
    rw [List.filterMap_cons, List.filterMap_append]
    simp only [Piece.char?, List.filterMap_cons, List.filterMap_nil, List.append_nil, h.shows]

theorem append (h : ReadsAs tags written shown pieces)
    (h' : ReadsAs tags' written' shown' pieces') :
    ReadsAs (tags ++ tags') (written ++ written') (shown ++ shown') (pieces ++ pieces') where
  reads rest := by
    rw [List.append_assoc, h.reads, h'.reads, Option.map_map]
    simp [Function.comp_def]
  closes names ps := by rw [List.append_assoc, h.closes, h'.closes]
  opens := by rw [List.filterMap_append, h.opens, h'.opens, List.map_append]
  shows rest := by
    rw [List.filterMap_append, List.append_assoc, h.shows, h'.shows, List.append_assoc]

end ReadsAs

/-- A text is made of nested tags, which are the given ones in the order in which they
    are opened, and of characters between them that show a text once their
    entities are read. -/
def Shows (tags : List Tag) (written shown : List Char) : Prop :=
  ∃ pieces, readPieces none written = some pieces ∧ nested [] pieces = true ∧
    pieces.filterMap Piece.inside? = tags.map Tag.written ∧
    readEntities (pieces.filterMap Piece.char?) = shown

namespace Writes

variable {tags tags' : List Tag} {written shown : List Char}

/-- A text that is put together well is read, whatever comes after it. The pieces are found by the
    way it is put together, and all four properties go through each step of that. -/
theorem exists_readsAs (h : Writes tags written shown) :
    ∃ pieces, ReadsAs tags written shown pieces := by
  induction h with
  | nil => exact ⟨[], readsAs_nil⟩
  | char h => exact ⟨_, h.readsAs⟩
  | element ht _ ih =>
      rcases ih with ⟨pieces, hpieces⟩
      exact ⟨_, hpieces.element ht⟩
  | append _ _ ih ih' =>
      rcases ih with ⟨pieces, hpieces⟩
      rcases ih' with ⟨pieces', hpieces'⟩
      exact ⟨_, hpieces.append hpieces'⟩

/-- A text that is put together well is made of the tags that were written, and shows
    what was written. -/
theorem shows (h : Writes tags written shown) : Shows tags written shown := by
  rcases h.exists_readsAs with ⟨pieces, hpieces⟩
  refine ⟨pieces, ?_, ?_, hpieces.opens, ?_⟩
  · have hreads := hpieces.reads []
    rwa [List.append_nil, readPieces, Option.map_some, List.append_nil] at hreads
  · have hcloses := hpieces.closes [] []
    rwa [List.append_nil, nested, List.isEmpty_nil] at hcloses
  · have hshows := hpieces.shows []
    rwa [List.append_nil, readEntities, List.append_nil] at hshows

/-- A text may be written by replacing its characters, as far as each of them is replaced
    by what stands for it. -/
theorem replaced {table : List (Char × List Char)} (h : ∀ c, Stands (replaced table c) c)
    (s : List Char) : Writes [] (s.flatMap (Text.replaced table)) s := by
  induction s with
  | nil => exact .nil
  | cons c s ih => exact (Writes.char (h c)).append ih

theorem newline : Writes [] ['\n'] ['\n'] :=
  .char (.inr ⟨rfl, by decide⟩)

end Writes

/-! ## Texts with tags of certain kinds -/

/-- What is written with certain tags only, and what it shows. The order of the tags is left out,
    as texts that are put together differently have them in different orders. -/
def WritesWith (P : Tag → Prop) (written shown : List Char) : Prop :=
  ∃ tags, Writes tags written shown ∧ ∀ t ∈ tags, P t

/-- What is written without tags is written with whatever tags there may be. -/
theorem Writes.writesWith {written shown : List Char} (h : Writes [] written shown)
    (P : Tag → Prop) : WritesWith P written shown :=
  ⟨[], h, by simp⟩

namespace WritesWith

variable {P Q : Tag → Prop} {written written' shown shown' : List Char}

theorem append (h : WritesWith P written shown) (h' : WritesWith P written' shown') :
    WritesWith P (written ++ written') (shown ++ shown') := by
  rcases h with ⟨tags, hwrites, htags⟩
  rcases h' with ⟨tags', hwrites', htags'⟩
  exact ⟨_, hwrites.append hwrites', fun t ht => (List.mem_append.1 ht).elim (htags t) (htags' t)⟩

theorem element {t : Tag} (ht : t.IsPlain) (hP : P t) (h : WritesWith P written shown) :
    WritesWith P (t.opening ++ written ++ t.closing) shown := by
  rcases h with ⟨tags, hwrites, htags⟩
  exact ⟨_, .element ht hwrites, List.forall_mem_cons.2 ⟨hP, htags⟩⟩

theorem mono (hPQ : ∀ t, P t → Q t) (h : WritesWith P written shown) :
    WritesWith Q written shown := by
  rcases h with ⟨tags, hwrites, htags⟩
  exact ⟨tags, hwrites, fun t ht => hPQ t (htags t ht)⟩

/-- Elements around a text, from the outermost on. -/
theorem elements {frame : List Tag} (hframe : ∀ t ∈ frame, t.IsPlain ∧ P t)
    (h : WritesWith P written shown) :
    WritesWith P (frame.flatMap Tag.opening ++ written ++ frame.reverse.flatMap Tag.closing)
      shown := by
  induction frame with
  | nil => simpa using h
  | cons t frame ih =>
      rw [List.forall_mem_cons] at hframe
      have hinner := (ih hframe.2).element hframe.1.1 hframe.1.2
      simpa [List.append_assoc] using hinner

end WritesWith

-- Tags that close in the wrong order are read, but they are not nested.
example : (readPieces none "<b><i>x</b></i>".toList).map (nested []) = some false := by decide

-- A bracket that belongs to no tag is not read.
example : readPieces none "<b>x > y</b>".toList = none := by decide

end Stencil.Text
