import RefDoc.Comment.Code

/-!
# Tags

A comment is a description followed by tags. A line that begins with `@` starts a tag; any later
line goes on with the value of the tag before it. `docletOf?` reads the tags in order over what the
code says, and makes a doclet if a name was found.
-/

namespace RefDoc.Comment

open Text

/-- A tag as it is written: its title and its value. -/
abbrev RawTag := List Char × List Char

structure Sections where
  /-- The lines of the description. -/
  description : List (List Char)
  tags : List RawTag
  deriving DecidableEq, Repr

/-- The title of a tag, up to the first blank, and its value. -/
def tagOf (cs : List Char) : RawTag :=
  (cs.takeWhile (!isBlank ·), trim ((cs.dropWhile (!isBlank ·)).drop 1))

/-- The value of a tag that goes on with another line. -/
def continueValue (value line : List Char) : List Char :=
  if line.isEmpty then value
  else if value.isEmpty then trim line
  else value ++ ' ' :: trim line

/-- One more line of a comment; the lists hold what was read so far, backwards. -/
def Sections.addLine (s : Sections) (line : List Char) : Sections :=
  match line, s.tags with
  | '@' :: rest, tags => { s with tags := tagOf rest :: tags }
  | line, (title, value) :: tags => { s with tags := (title, continueValue value line) :: tags }
  | line, [] => { s with description := line :: s.description }

def sections (comment : List Char) : Sections :=
  let s := (lines comment).foldl Sections.addLine ⟨[], []⟩
  ⟨s.description.reverse, s.tags.reverse⟩

/-- What the code and the tags say about a symbol. -/
structure Draft where
  name : Option String := none
  kind : Option Kind := none
  memberOf : Option String := none
  scope : Option Scope := none
  access : Option Access := none
  summary : Option String := none
  description : Option String := none
  augments : List String := []
  mixes : List String := []
  implements : List String := []
  borrowed : List Borrow := []
  others : List Tag := []
  deriving DecidableEq, Repr, Inhabited

def Draft.ofHint (h : CodeHint) : Draft :=
  { name := h.name, kind := h.kind, memberOf := h.memberOf, scope := h.scope }

/-- A borrow written `source as name`; without a name, the last part of the source is the name. -/
def borrowOf (value : List Char) : Borrow :=
  match splitOnce? [' ', 'a', 's', ' '] value with
  | some (source, name) => ⟨String.ofList (trim source), String.ofList (trim name)⟩
  | none =>
    let parts := splitAll (fun c => c == '.' || c == '#' || c == '~') value
    ⟨String.ofList value, String.ofList (parts.getLast?.getD value)⟩

def accessOf? : Option String → Option Access
  | some "private" => some .privateAccess
  | some "protected" => some .protectedAccess
  | some "public" => some .publicAccess
  | _ => none

/-- The draft with one tag read. -/
def Draft.apply (d : Draft) (tag : RawTag) : Draft :=
  let title := String.ofList tag.1
  let value := String.ofList tag.2
  let word := (firstWord? tag.2).map String.ofList
  match title with
  | "name" => { d with name := word }
  | "kind" => { d with kind := word.bind Kind.ofTag? }
  | "memberof" => { d with memberOf := word }
  | "instance" => { d with scope := some .onInstance }
  | "static" => { d with scope := some .static }
  | "inner" => { d with scope := some .inner }
  | "global" => { d with scope := some .global }
  | "private" => { d with access := some .privateAccess }
  | "protected" => { d with access := some .protectedAccess }
  | "public" => { d with access := some .publicAccess }
  | "access" => { d with access := (accessOf? word).or d.access }
  | "summary" => { d with summary := some value }
  | "description" | "desc" => { d with description := some value }
  | "augments" | "extends" => { d with augments := d.augments ++ word.toList }
  | "mixes" => { d with mixes := d.mixes ++ word.toList }
  | "implements" => { d with implements := d.implements ++ word.toList }
  | "borrows" => { d with borrowed := d.borrowed ++ [borrowOf tag.2] }
  | _ =>
    match Kind.ofTag? title with
    | some kind => { d with kind := some kind, name := word.or d.name }
    | none => { d with others := d.others ++ [⟨title, value⟩] }

/-- The doclet of a draft with a name. `text` is the description that stands before all tags. -/
def Draft.doclet (d : Draft) (name : String) (text : List Char) : Doclet :=
  let description := d.description.or (if text.isEmpty then none else some (String.ofList text))
  let doclet : Doclet :=
    { Doclet.named name (d.kind.getD .member) with
      description
      undocumented := description.isNone && d.others.isEmpty
      summary := d.summary
      access := d.access
      augments := d.augments
      mixes := d.mixes
      implements := d.implements
      borrowed := d.borrowed
      tags := d.others }
  match d.memberOf with
  | some parent => doclet.setMemberOf parent (d.scope.getD .static)
  | none => { doclet with scope := d.scope.or (some .global) }

/-- The doclet of a cleaned comment and the line of code behind it. -/
def docletOf? (comment : List Char) (next : Option (List Char)) : Option Doclet :=
  let s := sections comment
  let draft := s.tags.foldl Draft.apply (.ofHint ((next.map hintFromCode).getD {}))
  draft.name.map fun name => draft.doclet name (trim (joinLines s.description))

end RefDoc.Comment
