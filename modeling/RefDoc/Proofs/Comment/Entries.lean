import RefDoc.Comment.Tags
import RefDoc.Proofs.Text.Lines

/-!
# Tags as they are written

An `Entry` is a tag with what it says. It is written as its title with the first piece of its value
behind it, and a line for each further piece (`Entry.lines`), and those lines are read as one tag
(`Entry.foldl_lines`), which notes in the draft what the entry says and nothing else (`apply_entry`).
-/

namespace RefDoc.Comment

open Text

/-! ### Entries -/

structure Word where
  text : List Char
  isWord : IsWord text

/-- What stands on a line of a tag's value. There may be nothing. -/
structure Piece where
  text : List Char
  trimmed : trim text = text
  whole : '\n' ∉ text
  plain : text.head? ≠ some '@'

/-- A word that names a kind. -/
structure KindWord where
  word : Word
  kind : Kind
  known : Kind.ofTag? (String.ofList word.text) = some kind

/-- The titles with a meaning, those that name kinds apart. -/
def knownTitles : List String :=
  ["name", "kind", "memberof", "instance", "static", "inner", "global", "private", "protected",
    "public", "access", "summary", "description", "desc", "augments", "extends", "mixes",
    "implements", "borrows"]

/-- A title without a meaning. -/
structure OtherTitle where
  text : List Char
  solid : ∀ c ∈ text, isBlank c = false
  unknown : String.ofList text ∉ knownTitles
  noKind : Kind.ofTag? (String.ofList text) = none

inductive Entry where
  | name (name : Word)
  | kind (kind : KindWord)
  | memberOf (parent : Word)
  | scope (scope : Scope)
  /-- An access as a title. -/
  | access (access : Access)
  /-- An access behind the title `access`. -/
  | accessNamed (access : Access)
  | summary (pieces : List Piece)
  | augments (source : Word)
  | mixes (source : Word)
  | implements (source : Word)
  | borrows (source asName : Word)
  | other (title : OtherTitle) (pieces : List Piece)

namespace Entry

def title : Entry → List Char
  | name _ => "name".toList
  | kind _ => "kind".toList
  | memberOf _ => "memberof".toList
  | scope s => s.name.toList
  | access a => a.name.toList
  | accessNamed _ => "access".toList
  | summary _ => "summary".toList
  | augments _ => "augments".toList
  | mixes _ => "mixes".toList
  | implements _ => "implements".toList
  | borrows _ _ => "borrows".toList
  | other title _ => title.text

/-- The pieces of the value. -/
def pieces : Entry → List (List Char)
  | name w | memberOf w | augments w | mixes w | implements w => [w.text]
  | kind k => [k.word.text]
  | scope _ | access _ => []
  | accessNamed a => [a.name.toList]
  | summary ps | other _ ps => ps.map Piece.text
  | borrows source asName => [source.text ++ (" as ".toList ++ asName.text)]

end Entry

/-! ### Lines -/

/-- The lines of a tag. -/
def tagLines (title : List Char) : List (List Char) → List (List Char)
  | [] => ['@' :: title]
  | piece :: more =>
    (if piece.isEmpty then '@' :: title else '@' :: (title ++ ' ' :: piece)) :: more

/-- What is read from the pieces of a value. -/
def joined (pieces : List (List Char)) : List Char := joinWords (pieces.filter (!·.isEmpty))

theorem joined_singleton {piece : List Char} (written : piece ≠ []) : joined [piece] = piece := by
  simp [joined, written, joinWords_singleton]

/-- The text is trimmed and stands on one line. -/
structure IsPiece (cs : List Char) : Prop where
  trimmed : trim cs = cs
  whole : '\n' ∉ cs

theorem Word.isPiece (w : Word) : IsPiece w.text :=
  ⟨w.isWord.trim, fun newline => absurd (w.isWord.solid _ newline) (by decide)⟩

theorem Word.isPiece_as (source asName : Word) :
    IsPiece (source.text ++ (" as ".toList ++ asName.text)) where
  trimmed := by
    have front := (trim_eq_self_iff.mp source.isWord.trim).1
    have back := (trim_eq_self_iff.mp asName.isWord.trim).2
    refine trim_eq_self_iff.mpr ⟨?_, ?_⟩
    · rw [trimStart_eq_self_iff] at front ⊢
      rwa [List.head?_append_of_ne_nil _ source.isWord.written]
    · rw [← List.append_assoc]
      exact trimEnd_append back asName.isWord.written _
  whole newline := by
    rcases List.mem_append.mp newline with front | back
    · exact source.isPiece.whole front
    · rcases List.mem_append.mp back with middle | back
      · exact absurd middle (by decide)
      · exact asName.isPiece.whole back

theorem Piece.isPiece (p : Piece) : IsPiece p.text := ⟨p.trimmed, p.whole⟩

section Lines

variable {title piece line : List Char} {pieces more : List (List Char)}

theorem IsPiece.isEnded (piece : IsPiece line) : IsEnded line :=
  ⟨piece.whole, (trim_eq_self_iff.mp piece.trimmed).2⟩

theorem tagLines_isEnded (solid : ∀ c ∈ title, isBlank c = false)
    (trimmed : ∀ p ∈ pieces, IsPiece p) : ∀ l ∈ tagLines title pieces, IsEnded l := by
  have start : IsWord ('@' :: title) := ⟨nofun, List.forall_mem_cons.mpr ⟨by decide, solid⟩⟩
  have start : IsEnded ('@' :: title) := (Word.mk _ start).isPiece.isEnded
  cases pieces with
  | nil => exact List.forall_mem_singleton.mpr start
  | cons piece more =>
    obtain ⟨first, more⟩ := List.forall_mem_cons.mp trimmed
    refine List.forall_mem_cons.mpr ⟨?_, fun p member => (more p member).isEnded⟩
    split
    · exact start
    · rename_i written
      have front : '@' :: (title ++ ' ' :: piece) = '@' :: title ++ [' '] ++ piece := by simp
      rw [front]
      refine ⟨fun newline => ?_, trimEnd_append first.isEnded.ended (by simpa using written) _⟩
      rcases List.mem_append.mp newline with before | inside
      · exact start.whole (by simpa using before)
      · exact first.whole inside

theorem tagLines_begins (title : List Char) (pieces : List (List Char)) :
    ∃ line more, tagLines title pieces = ('@' :: line) :: more := by
  cases pieces with
  | nil => exact ⟨title, [], rfl⟩
  | cons piece more =>
    rw [tagLines]
    split
    · exact ⟨title, more, rfl⟩
    · exact ⟨title ++ ' ' :: piece, more, rfl⟩

theorem addLine_plain (s : Sections) (plain : line.head? ≠ some '@') :
    s.addLine line = match s.tags with
      | (title, value) :: tags => { s with tags := (title, continueValue value line) :: tags }
      | [] => { s with description := line :: s.description } := by
  unfold Sections.addLine
  split
  · exact absurd rfl plain
  · rename_i tagged
    rw [tagged]
  · rename_i untagged
    rw [untagged]

theorem continueValue_joined (trimmed : trim piece = piece) (read : List (List Char)) :
    continueValue (joined read) piece = joined (read ++ [piece]) := by
  rw [joined, joined, List.filter_append]
  by_cases empty : piece = []
  · subst empty
    simp [continueValue]
  · have kept : [piece].filter (!·.isEmpty) = [piece] := by simpa using empty
    rw [kept, continueValue, if_neg (by simpa using empty), trimmed]
    by_cases first : read.filter (!·.isEmpty) = []
    · have none : (joinWords []).isEmpty = true := rfl
      rw [first, if_pos none, List.nil_append, joinWords_singleton]
    · have written : joinWords (read.filter (!·.isEmpty)) ≠ [] :=
        intercalate_ne_nil ' ' (fun w member => by simpa using (List.mem_filter.mp member).2) first
      rw [if_neg (by simpa using written), joinWords_concat first]

/-- By induction on the pieces that follow; `read` are the pieces before. -/
theorem foldl_more (pieces : ∀ p ∈ more, IsPiece p ∧ p.head? ≠ some '@') (read : List (List Char))
    (description : List (List Char)) (tags : List RawTag) :
    more.foldl Sections.addLine ⟨description, (title, joined read) :: tags⟩ =
      ⟨description, (title, joined (read ++ more)) :: tags⟩ := by
  induction more generalizing read with
  | nil => rw [List.append_nil, List.foldl_nil]
  | cons p more ih =>
    obtain ⟨⟨piece, plain⟩, pieces⟩ := List.forall_mem_cons.mp pieces
    rw [List.foldl_cons, addLine_plain _ plain]
    show more.foldl Sections.addLine ⟨_, (title, continueValue (joined read) p) :: tags⟩ = _
    rw [continueValue_joined piece.trimmed, ih pieces, List.append_assoc, List.singleton_append]

theorem tagOf_title (solid : ∀ c ∈ title, isBlank c = false) : tagOf title = (title, []) := by
  have inside : ∀ c ∈ title, !isBlank c := by simpa using solid
  rw [tagOf, List.takeWhile_eq_self_iff.mpr inside, List.dropWhile_eq_nil_iff.mpr inside]
  rfl

theorem tagOf_piece (solid : ∀ c ∈ title, isBlank c = false) (trimmed : trim piece = piece) :
    tagOf (title ++ ' ' :: piece) = (title, piece) := by
  have inside : ∀ c ∈ title, !isBlank c := by simpa using solid
  have blank : (!isBlank ' ') = false := by decide
  rw [tagOf, List.takeWhile_append_of_pos inside, List.dropWhile_append_of_pos inside,
    List.takeWhile_cons, List.dropWhile_cons, blank, if_neg Bool.false_ne_true,
    if_neg Bool.false_ne_true, List.append_nil, List.drop_one, List.tail_cons, trimmed]

theorem foldl_tagLines (solid : ∀ c ∈ title, isBlank c = false) (trimmed : ∀ p ∈ pieces, IsPiece p)
    (plain : ∀ p ∈ pieces.tail, p.head? ≠ some '@') (s : Sections) :
    (tagLines title pieces).foldl Sections.addLine s =
      { s with tags := (title, joined pieces) :: s.tags } := by
  cases pieces with
  | nil =>
    show ({ s with tags := tagOf title :: s.tags } : Sections) = _
    rw [tagOf_title solid]
    rfl
  | cons piece more =>
    obtain ⟨first, trimmed⟩ := List.forall_mem_cons.mp trimmed
    have read : s.addLine
        (if piece.isEmpty then '@' :: title else '@' :: (title ++ ' ' :: piece)) =
          ⟨s.description, (title, joined [piece]) :: s.tags⟩ := by
      by_cases empty : piece = []
      · subst empty
        exact congrArg (fun tag => (⟨s.description, tag :: s.tags⟩ : Sections)) (tagOf_title solid)
      · rw [if_neg (by simpa using empty), joined_singleton empty, ← tagOf_piece solid first.trimmed]
        rfl
    rw [tagLines, List.foldl_cons, read]
    exact foldl_more (fun p member => ⟨trimmed p member, plain p member⟩) [piece] _ _

end Lines

/-! ### The lines of an entry -/

namespace Entry

def lines (e : Entry) : List (List Char) := tagLines e.title e.pieces

/-- The tag as it is read. -/
def raw (e : Entry) : RawTag := (e.title, joined e.pieces)

theorem title_solid (e : Entry) : ∀ c ∈ e.title, isBlank c = false := by
  cases e with
  | other title => exact title.solid
  | scope s => cases s <;> exact solid_of_all rfl
  | access a => cases a <;> exact solid_of_all rfl
  | _ => exact solid_of_all rfl

theorem isPiece (e : Entry) : ∀ p ∈ e.pieces, IsPiece p := by
  have texts (ps : List Piece) : ∀ p ∈ ps.map Piece.text, IsPiece p := by
    intro p member
    obtain ⟨piece, -, rfl⟩ := List.mem_map.mp member
    exact piece.isPiece
  have one {p : List Char} (piece : IsPiece p) : ∀ p' ∈ [p], IsPiece p' := by simpa using piece
  cases e with
  | name w | memberOf w | augments w | mixes w | implements w => exact one w.isPiece
  | kind k => exact one k.word.isPiece
  | scope | access => exact fun _ => nofun
  | accessNamed a => exact one (by cases a <;> exact ⟨by decide, by decide⟩)
  | summary ps | other _ ps => exact texts ps
  | borrows source asName => exact one (source.isPiece_as asName)

theorem plain (e : Entry) : ∀ p ∈ e.pieces.tail, p.head? ≠ some '@' := by
  have texts (ps : List Piece) : ∀ p ∈ (ps.map Piece.text).tail, p.head? ≠ some '@' := by
    intro p member
    obtain ⟨piece, -, rfl⟩ := List.mem_map.mp (List.mem_of_mem_tail member)
    exact piece.plain
  cases e with
  | summary ps | other _ ps => exact texts ps
  | _ => exact fun _ => nofun

theorem foldl_lines (e : Entry) (s : Sections) :
    e.lines.foldl Sections.addLine s = { s with tags := e.raw :: s.tags } :=
  foldl_tagLines e.title_solid e.isPiece e.plain s

end Entry

/-! ### What an entry says -/

/-- The draft with what an entry says. -/
def Draft.note (d : Draft) : Entry → Draft
  | .name w => { d with name := some (String.ofList w.text) }
  | .kind k => { d with kind := some k.kind }
  | .memberOf w => { d with memberOf := some (String.ofList w.text) }
  | .scope s => { d with scope := some s }
  | .access a | .accessNamed a => { d with access := some a }
  | .summary ps => { d with summary := some (String.ofList (joined (ps.map Piece.text))) }
  | .augments w => { d with augments := d.augments ++ [String.ofList w.text] }
  | .mixes w => { d with mixes := d.mixes ++ [String.ofList w.text] }
  | .implements w => { d with implements := d.implements ++ [String.ofList w.text] }
  | .borrows source asName =>
    { d with
      borrowed := d.borrowed ++ [⟨String.ofList source.text, String.ofList asName.text⟩] }
  | .other title ps =>
    { d with
      others := d.others ++
        [⟨String.ofList title.text, String.ofList (joined (ps.map Piece.text))⟩] }

theorem Word.read (w : Word) :
    (firstWord? (joined [w.text])).map String.ofList = some (String.ofList w.text) := by
  rw [joined_singleton w.isWord.written, w.isWord.firstWord?, Option.map_some]

theorem KindWord.read (k : KindWord) :
    ((firstWord? (joined [k.word.text])).map String.ofList).bind Kind.ofTag? = some k.kind := by
  rw [k.word.read, Option.bind_some, k.known]

theorem borrowOf_as (source asName : Word) :
    borrowOf (source.text ++ (" as ".toList ++ asName.text)) =
      ⟨String.ofList source.text, String.ofList asName.text⟩ := by
  have first (n) (early : n < source.text.length) :
      ¬ StandsAt [' ', 'a', 's', ' '] (source.text ++ (" as ".toList ++ asName.text)) n := by
    intro stands
    have blank := stands.head
    rw [List.getElem?_append_left early] at blank
    exact absurd (source.isWord.solid _ (List.mem_of_getElem? blank)) (by decide)
  have split : splitOnce? [' ', 'a', 's', ' '] (source.text ++ (" as ".toList ++ asName.text)) =
      some (source.text, asName.text) := splitOnce?_append first
  rw [borrowOf, split]
  simp only [source.isWord.trim, asName.isWord.trim]

theorem apply_other (d : Draft) (title : OtherTitle) (value : List Char) :
    d.apply (title.text, value) =
      { d with others := d.others ++ [⟨String.ofList title.text, String.ofList value⟩] } := by
  obtain ⟨text, solid, unknown, noKind⟩ := title
  unfold Draft.apply
  dsimp only
  generalize String.ofList text = title at unknown noKind ⊢
  split
  case h_20 => rw [noKind]
  all_goals exact absurd (by decide) unknown

/-- An entry is read as what it says. -/
theorem apply_entry (d : Draft) (e : Entry) : d.apply e.raw = d.note e := by
  cases e with
  | name w => exact congrArg (fun word => ({ d with name := word } : Draft)) w.read
  | kind k => exact congrArg (fun kind => ({ d with kind } : Draft)) k.read
  | memberOf w => exact congrArg (fun word => ({ d with memberOf := word } : Draft)) w.read
  | scope s => cases s <;> rfl
  | access a => cases a <;> rfl
  | accessNamed a => cases a <;> rfl
  | summary ps => rfl
  | augments w =>
    exact congrArg (fun word => ({ d with augments := d.augments ++ word.toList } : Draft)) w.read
  | mixes w =>
    exact congrArg (fun word => ({ d with mixes := d.mixes ++ word.toList } : Draft)) w.read
  | implements w =>
    exact congrArg (fun word => ({ d with implements := d.implements ++ word.toList } : Draft))
      w.read
  | borrows source asName =>
    have written : source.text ++ (" as ".toList ++ asName.text) ≠ [] :=
      List.append_ne_nil_of_left_ne_nil source.isWord.written _
    show ({ d with borrowed := d.borrowed ++ [borrowOf (joined [_])] } : Draft) = _
    rw [joined_singleton written, borrowOf_as]
    rfl
  | other title ps => exact apply_other d title _

/-! ### All that entries say -/

namespace Entry

def name? : Entry → Option String
  | name w => some (String.ofList w.text)
  | _ => none

def kind? : Entry → Option Kind
  | kind k => some k.kind
  | _ => none

def memberOf? : Entry → Option String
  | memberOf w => some (String.ofList w.text)
  | _ => none

def scope? : Entry → Option Scope
  | scope s => some s
  | _ => none

def access? : Entry → Option Access
  | access a | accessNamed a => some a
  | _ => none

def summary? : Entry → Option String
  | summary ps => some (String.ofList (joined (ps.map Piece.text)))
  | _ => none

def augmented? : Entry → Option String
  | augments w => some (String.ofList w.text)
  | _ => none

def mixed? : Entry → Option String
  | mixes w => some (String.ofList w.text)
  | _ => none

def implemented? : Entry → Option String
  | implements w => some (String.ofList w.text)
  | _ => none

def borrow? : Entry → Option Borrow
  | borrows source asName => some ⟨String.ofList source.text, String.ofList asName.text⟩
  | _ => none

def other? : Entry → Option Tag
  | other title ps => some ⟨String.ofList title.text, String.ofList (joined (ps.map Piece.text))⟩
  | _ => none

end Entry

section All

variable {α : Type}

theorem foldl_apply (es : List Entry) (d : Draft) :
    (es.map Entry.raw).foldl Draft.apply d = es.foldl Draft.note d := by
  rw [List.foldl_map]
  exact congrArg (List.foldl · d es) (funext₂ apply_entry)

/-- What a tag says is forgotten when a later one says otherwise. -/
theorem foldl_note_last {field : Draft → Option α} {told : Entry → Option α}
    (step : ∀ d e, field (d.note e) = (told e).or (field d)) (es : List Entry) (d : Draft) :
    field (es.foldl Draft.note d) = (es.filterMap told).getLast?.or (field d) := by
  induction es using List.reverseRecOn with
  | nil => rfl
  | append_singleton es e ih =>
    rw [List.foldl_concat, step, ih, List.filterMap_append]
    cases said : told e <;> simp [said]

theorem foldl_note_all {field : Draft → List α} {told : Entry → Option α}
    (step : ∀ d e, field (d.note e) = (told e).elim (field d) (field d ++ [·])) (es : List Entry)
    (d : Draft) : field (es.foldl Draft.note d) = field d ++ es.filterMap told := by
  induction es generalizing d with
  | nil => exact (List.append_nil _).symm
  | cons e es ih =>
    rw [List.foldl_cons, ih, step, List.filterMap_cons]
    cases told e with
    | none => rfl
    | some said => exact List.append_assoc (field d) [said] _

theorem foldl_note_description (es : List Entry) (d : Draft) :
    (es.foldl Draft.note d).description = d.description := by
  induction es generalizing d with
  | nil => rfl
  | cons e es ih =>
    rw [List.foldl_cons, ih]
    cases e <;> rfl

/-- One entry says it, so that is what is read. -/
theorem foldl_note_one {field : Draft → Option α} {told : Entry → Option α} {said : α}
    (step : ∀ d e, field (d.note e) = (told e).or (field d)) {es : List Entry}
    (one : es.filterMap told = [said]) (d : Draft) : field (es.foldl Draft.note d) = some said := by
  rw [foldl_note_last step, one]
  rfl

end All

end RefDoc.Comment
