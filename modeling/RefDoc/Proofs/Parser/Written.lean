import RefDoc.Proofs.Comment.Entries
import RefDoc.Proofs.Comment.Layout
import RefDoc.Proofs.Parser.Joined

/-!
# Written comments are read back

A comment that is written in the usual layout, with a description and with tags in any order, makes
one doclet, whatever code follows, and the doclet has what was written (`written_read`): where a tag
and the code speak of the same thing, the tag is believed.
-/

namespace RefDoc

open Text Comment

/-- A description and tags: one of each that can be said once only, and any number of the others. -/
structure WrittenComment where
  description : List Char
  trimmed : trim description = description
  ended : ∀ l ∈ splitAll (· == '\n') description, trimEnd l = l
  plain : ∀ l ∈ splitAll (· == '\n') description, l.head? ≠ some '@'
  entries : List Entry
  name : String
  oneName : entries.filterMap Entry.name? = [name]
  kind : Kind
  oneKind : entries.filterMap Entry.kind? = [kind]
  parent : String
  oneParent : entries.filterMap Entry.memberOf? = [parent]
  scope : Scope
  oneScope : entries.filterMap Entry.scope? = [scope]
  access : Access
  oneAccess : entries.filterMap Entry.access? = [access]
  summary : String
  oneSummary : entries.filterMap Entry.summary? = [summary]

namespace WrittenComment

variable (w : WrittenComment)

/-! ### How it is written -/

def descriptionLines : List (List Char) :=
  if w.description.isEmpty then [] else splitAll (· == '\n') w.description

def lines : List (List Char) := w.descriptionLines ++ w.entries.flatMap Entry.lines

/-- What stands between `/**` and the end. -/
def inside : List Char := layout w.lines

def text : List Char := enclosed w.inside

/-- The doclet with what is written. -/
def doclet : Doclet where
  name := w.name
  longname := w.parent ++ w.scope.separator ++ w.name
  kind := w.kind
  memberOf := some w.parent
  scope := some w.scope
  access := some w.access
  description := if w.description.isEmpty then none else some (String.ofList w.description)
  summary := some w.summary
  augments := w.entries.filterMap Entry.augmented?
  mixes := w.entries.filterMap Entry.mixed?
  implements := w.entries.filterMap Entry.implemented?
  borrowed := w.entries.filterMap Entry.borrow?
  undocumented := w.description.isEmpty && (w.entries.filterMap Entry.other?).isEmpty
  tags := w.entries.filterMap Entry.other?

/-! ### Its lines -/

theorem lines_isEnded : ∀ l ∈ w.lines, IsEnded l := by
  refine List.forall_mem_append.mpr ⟨fun l member => ?_, fun l member => ?_⟩
  · rw [descriptionLines] at member
    split at member
    · cases member
    · exact ⟨newline_not_mem_splitAll _ l member, w.ended l member⟩
  · obtain ⟨e, -, member⟩ := List.mem_flatMap.mp member
    exact tagLines_isEnded e.title_solid e.isPiece l member

theorem entries_ne_nil : w.entries ≠ [] := by
  intro none
  have named := w.oneName
  rw [none] at named
  cases named

theorem lines_begins : Begins w.lines := by
  by_cases empty : w.description = []
  · obtain ⟨e, es, split⟩ := List.exists_cons_of_ne_nil w.entries_ne_nil
    obtain ⟨line, more, written⟩ : ∃ line more, e.lines = ('@' :: line) :: more :=
      tagLines_begins e.title e.pieces
    refine ⟨'@', line, more ++ es.flatMap Entry.lines, ?_, by decide⟩
    rw [lines, descriptionLines, if_pos (by simpa using empty), split, List.flatMap_cons, written]
    rfl
  · obtain ⟨c, cs, split⟩ := List.exists_cons_of_ne_nil empty
    obtain ⟨piece, pieces, split'⟩ :=
      List.exists_cons_of_ne_nil (splitAll_ne_nil (· == '\n') cs)
    have solid : isBlank c = false :=
      trimStart_eq_self_iff.mp (trim_eq_self_iff.mp w.trimmed).1 c (by rw [split]; rfl)
    have other : ¬ (c == '\n') = true := by
      rintro newline
      rw [eq_of_beq newline] at solid
      exact absurd solid (by decide)
    refine ⟨c, piece, pieces ++ w.entries.flatMap Entry.lines, ?_, solid⟩
    rw [lines, descriptionLines, if_neg (by simpa using empty), split, splitAll, if_neg other,
      split']
    rfl

theorem joinLines_descriptionLines : joinLines w.descriptionLines = w.description := by
  rw [descriptionLines]
  split
  · rename_i empty
    exact (List.isEmpty_iff.mp empty).symm
  · exact joinLines_splitAll _

/-! ### How it is read -/

theorem foldl_plain {ls : List (List Char)} (plain : ∀ l ∈ ls, l.head? ≠ some '@')
    (read : List (List Char)) :
    ls.foldl Sections.addLine ⟨read, []⟩ = ⟨ls.reverse ++ read, []⟩ := by
  induction ls generalizing read with
  | nil => rfl
  | cons l ls ih =>
    obtain ⟨first, plain⟩ := List.forall_mem_cons.mp plain
    rw [List.foldl_cons, addLine_plain _ first]
    show ls.foldl Sections.addLine ⟨l :: read, []⟩ = _
    rw [ih plain, List.reverse_cons, List.append_assoc, List.singleton_append]

theorem foldl_entries (es : List Entry) (s : Sections) :
    (es.flatMap Entry.lines).foldl Sections.addLine s =
      { s with tags := (es.map Entry.raw).reverse ++ s.tags } := by
  induction es generalizing s with
  | nil => rfl
  | cons e es ih =>
    rw [List.flatMap_cons, List.foldl_append, e.foldl_lines, ih, List.map_cons, List.reverse_cons,
      List.append_assoc, List.singleton_append]

theorem foldl_lines : w.lines.foldl Sections.addLine ⟨[], []⟩ =
    ⟨w.descriptionLines.reverse, (w.entries.map Entry.raw).reverse⟩ := by
  have plain : ∀ l ∈ w.descriptionLines, l.head? ≠ some '@' := by
    rw [descriptionLines]
    split
    · exact fun _ => nofun
    · exact w.plain
  rw [lines, List.foldl_append, foldl_plain plain, foldl_entries, List.append_nil, List.append_nil]

theorem sections_clean :
    sections (clean w.inside) = ⟨w.descriptionLines, w.entries.map Entry.raw⟩ := by
  have tagged : (w.lines.foldl Sections.addLine ⟨[], []⟩).tags ≠ [] := by
    rw [foldl_lines]
    simpa using w.entries_ne_nil
  rw [inside, sections_layout w.lines_isEnded w.lines_begins tagged, foldl_lines,
    List.reverse_reverse, List.reverse_reverse]

/-- What the code says is forgotten. -/
def draft : Draft where
  name := some w.name
  kind := some w.kind
  memberOf := some w.parent
  scope := some w.scope
  access := some w.access
  summary := some w.summary
  augments := w.entries.filterMap Entry.augmented?
  mixes := w.entries.filterMap Entry.mixed?
  implements := w.entries.filterMap Entry.implemented?
  borrowed := w.entries.filterMap Entry.borrow?
  others := w.entries.filterMap Entry.other?

theorem foldl_note (hint : CodeHint) : w.entries.foldl Draft.note (.ofHint hint) = w.draft := by
  generalize read : w.entries.foldl Draft.note (.ofHint hint) = d
  have name : d.name = some w.name :=
    read ▸ foldl_note_one (fun d e => by cases e <;> rfl) w.oneName _
  have kind : d.kind = some w.kind :=
    read ▸ foldl_note_one (fun d e => by cases e <;> rfl) w.oneKind _
  have parent : d.memberOf = some w.parent :=
    read ▸ foldl_note_one (fun d e => by cases e <;> rfl) w.oneParent _
  have scope : d.scope = some w.scope :=
    read ▸ foldl_note_one (fun d e => by cases e <;> rfl) w.oneScope _
  have access : d.access = some w.access :=
    read ▸ foldl_note_one (fun d e => by cases e <;> rfl) w.oneAccess _
  have summary : d.summary = some w.summary :=
    read ▸ foldl_note_one (fun d e => by cases e <;> rfl) w.oneSummary _
  have description : d.description = none := read ▸ foldl_note_description w.entries _
  have augments : d.augments = w.entries.filterMap Entry.augmented? :=
    read ▸ foldl_note_all (fun d e => by cases e <;> rfl) w.entries _
  have mixes : d.mixes = w.entries.filterMap Entry.mixed? :=
    read ▸ foldl_note_all (fun d e => by cases e <;> rfl) w.entries _
  have implements : d.implements = w.entries.filterMap Entry.implemented? :=
    read ▸ foldl_note_all (fun d e => by cases e <;> rfl) w.entries _
  have borrowed : d.borrowed = w.entries.filterMap Entry.borrow? :=
    read ▸ foldl_note_all (fun d e => by cases e <;> rfl) w.entries _
  have others : d.others = w.entries.filterMap Entry.other? :=
    read ▸ foldl_note_all (fun d e => by cases e <;> rfl) w.entries _
  calc d = ⟨d.name, d.kind, d.memberOf, d.scope, d.access, d.summary, d.description, d.augments,
        d.mixes, d.implements, d.borrowed, d.others⟩ := rfl
    _ = w.draft := by
      rw [name, kind, parent, scope, access, summary, description, augments, mixes, implements,
        borrowed, others]
      rfl

theorem docletOf?_written (next : Option (List Char)) :
    docletOf? (clean w.inside) next = some w.doclet := by
  rw [docletOf?, sections_clean]
  dsimp only
  rw [foldl_apply, joinLines_descriptionLines, w.trimmed, foldl_note]
  show some (w.draft.doclet w.name w.description) = _
  unfold Draft.doclet doclet
  cases w.description.isEmpty <;> rfl

end WrittenComment

namespace Parser

variable {σ : Type} {p : Parser σ}

/-- **A written comment is read back.** With any code behind it, it makes one doclet, which has what
is written and nothing from the code; the comments in the code make what they make alone. -/
theorem written_read (unheard : p.Unheard) (w : WrittenComment)
    (closed : ∀ n, ¬ StandsAt ['*', '/'] w.inside n) (code : String) (file : Path) :
    ∃ ds, (∀ c, p.parseSource file code c = pure (c.pushAll ds)) ∧
      ∀ c, p.parseSource file (String.ofList w.text ++ code) c =
        pure (c.pushAll ({ w.doclet with origin := some ⟨file, file.fileName?.getD "", 1⟩ } ::
          ds.map (Doclet.lowered (countNewlines w.text)))) := by
  refine ⟨_, parseSource_unheard unheard file code, fun c => ?_⟩
  have found := blocks_enclosed (show w.inside.head? ≠ some '/' from nofun) closed code.toList
  have made : docletAt? (String.ofList (clean w.inside)) file
      ⟨clean w.inside, 1, firstLine? code.toList⟩ =
        some { w.doclet with origin := some ⟨file, file.fileName?.getD "", 1⟩ } := by
    rw [docletAt?, String.toList_ofList, w.docletOf?_written, Option.map_some]
  rw [parseSource_unheard unheard, docletsOf, String.toList_append, String.toList_ofList,
    WrittenComment.text, found, List.filterMap_cons, made, filterMap_lowered]
  rfl

/-- The comment of a method, on a class. -/
def areaComment : WrittenComment where
  description := "Area.\n\nIn square metres.".toList
  trimmed := by decide
  ended := by decide
  plain := by decide
  entries :=
    [.augments ⟨"Size".toList, by decide, solid_of_all rfl⟩,
      .kind ⟨⟨"method".toList, by decide, solid_of_all rfl⟩, .function, by decide⟩,
      .name ⟨"area".toList, by decide, solid_of_all rfl⟩,
      .memberOf ⟨"Shape".toList, by decide, solid_of_all rfl⟩,
      .other ⟨"since".toList, solid_of_all rfl, by decide, by decide⟩
        [⟨[], by decide, by decide, by decide⟩, ⟨"1.0".toList, by decide, by decide, by decide⟩],
      .scope .onInstance,
      .summary [⟨"The area".toList, by decide, by decide, by decide⟩,
        ⟨"of it.".toList, by decide, by decide, by decide⟩],
      .accessNamed .protectedAccess,
      .borrows ⟨"Other.size".toList, by decide, solid_of_all rfl⟩
        ⟨"size".toList, by decide, solid_of_all rfl⟩]
  name := "area"
  oneName := by decide
  kind := .function
  oneKind := by decide
  parent := "Shape"
  oneParent := by decide
  scope := .onInstance
  oneScope := by decide
  access := .protectedAccess
  oneAccess := by decide
  summary := "The area of it."
  oneSummary := by decide

theorem written_read_area :
    let p : Parser Unit := { standard := true }
    let text := "/**\n * Area.\n * \n * In square metres.\n * @augments Size\n * @kind method\n" ++
      " * @name area\n * @memberof Shape\n * @since\n * 1.0\n * @instance\n" ++
      " * @summary The area\n * of it.\n * @access protected\n * @borrows Other.size as size\n */"
    p.Unheard ∧ String.ofList areaComment.text = text ∧
      (∀ n, ¬ StandsAt ['*', '/'] areaComment.inside n) ∧
      ∃ ds, (∀ c, p.parseSource ⟨"a.js"⟩ "class Circle {}" c = pure (c.pushAll ds)) ∧
        ∀ c, p.parseSource ⟨"a.js"⟩ (text ++ "class Circle {}") c =
          pure (c.pushAll ({
            name := "area", longname := "Shape#area", kind := .function, memberOf := some "Shape",
            scope := some .onInstance, access := some .protectedAccess,
            description := some "Area.\n\nIn square metres.", summary := some "The area of it.",
            augments := ["Size"], borrowed := [⟨"Other.size", "size"⟩], tags := [⟨"since", "1.0"⟩],
            origin := some ⟨⟨"a.js"⟩, "a.js", 1⟩ } :: ds.map (Doclet.lowered 15))) := by
  intro p text
  have unheard : p.Unheard := ⟨rfl, rfl⟩
  have written : String.ofList areaComment.text = text := by decide +kernel
  have closed : ∀ n, ¬ StandsAt ['*', '/'] areaComment.inside n :=
    splitOnce?_eq_none (by decide +kernel)
  have lines : countNewlines areaComment.text = 15 := by decide +kernel
  have read := written_read unheard areaComment closed "class Circle {}" ⟨"a.js"⟩
  rw [written, lines] at read
  exact ⟨unheard, written, closed, read⟩

end Parser

end RefDoc
