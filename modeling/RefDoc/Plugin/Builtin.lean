import RefDoc.Plugin.Basic
import RefDoc.Table
import RefDoc.Text.Sentence

/-!
# Built-in plugins

* `plugins/underscore` makes symbols private whose names begin with an underscore;
* `plugins/summarize` takes the first sentence of a description as the summary;
* `plugins/sourcetag` reads the place of a symbol from its `source` tag;
* `plugins/eventDumper` logs every event.

The first three never undo what a comment says itself.
-/

namespace RefDoc

namespace Doclet

def hideUnderscored (d : Doclet) : Doclet :=
  if d.access.isNone && d.name.toList.head? == some '_' then
    { d with access := some .privateAccess }
  else d

def summarized (d : Doclet) : Doclet :=
  { d with
    summary := d.summary.or
      (d.description.map fun text => String.ofList (Text.firstSentence text.toList)) }

/-- A line number in decimal digits, which a plus sign may precede. -/
def lineNumber? (cs : List Char) : Option Nat :=
  let digits :=
    match cs with
    | '+' :: rest => rest
    | cs => cs
  (Text.decimal? digits).filter (· < 0x10000000000000000)

/-- The origin as a `source` tag corrects it: a file name and a line number, both optional. -/
def correctOrigin (value : String) (o : Origin) : Origin :=
  let parts := (Text.splitAll (fun c => c == ',' || c == ' ') value.toList).filter (!·.isEmpty)
  { o with
    filename := (parts.head?.map String.ofList).getD o.filename
    line := ((parts.drop 1).head?.bind lineNumber?).getD o.line }

/-- Takes the first `source` tag for the origin, and drops it. -/
def relocated (d : Doclet) : Doclet :=
  match d.tag? "source" with
  | none => d
  | some tag =>
    { d with
      tags := d.tags.eraseP (·.title = "source")
      origin := some (correctOrigin tag.value (d.origin.getD ⟨⟨""⟩, "", 0⟩)) }

end Doclet

namespace Plugin

variable {σ : Type}

/-- A plugin that changes new doclets. -/
def onDoclets (change : Doclet → Doclet) : Plugin σ where
  handlers := pure [.newDoclet fun d => pure (change d)]

/-- An event that has no message. -/
def dumped (kind : EventKind) (fields : List (String × String)) : Act σ Unit :=
  Act.log ⟨.debug, none, ("event", kind.name) :: fields⟩

def eventDumper : Plugin σ where
  handlers := pure
    [.parseBegin fun files => do
        dumped .parseBegin [("files", toString files.length)]
        return files,
      .fileBegin fun file => dumped .fileBegin [("file", file.text)],
      .commentFound fun comment file line => do
        dumped .commentFound
          [("file", file.text), ("lineno", toString line), ("comment", comment)]
        return comment,
      .newDoclet fun d => do
        dumped .newDoclet [("longname", d.longname), ("kind", d.kind.label)]
        return d,
      .fileComplete fun file => dumped .fileComplete [("file", file.text)],
      .parseComplete fun _ doclets =>
        dumped .parseComplete [("doclets", toString doclets.size)],
      .processingComplete fun doclets =>
        dumped .processingComplete [("doclets", toString doclets.size)]]

def builtin : Table (Plugin σ) :=
  .ofList
    [("plugins/underscore", onDoclets Doclet.hideUnderscored),
      ("plugins/summarize", onDoclets Doclet.summarized),
      ("plugins/sourcetag", onDoclets Doclet.relocated),
      ("plugins/eventDumper", eventDumper)]

end Plugin

end RefDoc
