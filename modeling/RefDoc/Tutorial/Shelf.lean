import RefDoc.Config.Comments
import RefDoc.Desk
import RefDoc.Markdown.Html
import RefDoc.Tutorial.Basic
import RefDoc.Tutorial.Settings

/-!
# The tutorial shelf

Tutorials are read from the files of one directory: Markdown and HTML files are tutorials named by
their file, JSON files hold settings. A settings file with the name of a tutorial is about that
tutorial; any other is about the tutorials it names. Reading stops at the first file that is at
fault, and what was read before it stays on the shelf.
-/

namespace RefDoc

structure Tutorial where
  title : String
  /-- The text as HTML. -/
  content : String
  children : List String := []
  deriving DecidableEq, Repr, Inhabited

structure TutorialShelf where
  tutorials : Table Tutorial := ∅
  /-- Settings that were read and not applied yet. -/
  pending : List (String × TutorialSettings) := []
  /-- The tree as it was last built. -/
  tree : TutorialTree := .root []
  deriving Inhabited

/-- What a file of the directory is. -/
inductive TutorialFile where
  | markdown
  | html
  | settings
  deriving DecidableEq, Repr

namespace TutorialFile

def ofExtension? : String → Option TutorialFile
  | "md" | "markdown" => some markdown
  | "html" | "htm" | "xhtml" | "xml" => some html
  | "json" => some settings
  | _ => none

/-- A file by the name of its tutorial, if its extension is known. -/
def ofPath? (p : Path) : Option (String × TutorialFile × Path) := do
  let stem ← p.stem?
  let extension ← p.extension?
  let kind ← ofExtension? (String.ofList (extension.toList.map Text.asciiLower))
  return (stem, kind, p)

end TutorialFile

namespace TutorialShelf

/-- Puts a tutorial on the shelf, unless there is one of that name. -/
def add (s : TutorialShelf) (name content : String) : TutorialShelf × List Event :=
  if s.tutorials.contains name then
    (s, [.warn "duplicate tutorial name, keeping the first" [("tutorial", name)]])
  else ({ s with tutorials := s.tutorials.insert name { title := name, content } }, [])

/-- Reads a settings file. -/
def addSettings (s : TutorialShelf) (name : String) (path : Path) (text : String) :
    Except Error TutorialShelf := do
  let decode {α : Type} (read : Json.Tree → Json.Decoded α) : Except Error α :=
    (Json.decodeText read (Config.blankComments text)).mapError fun e =>
      .config s!"invalid tutorial config {path.text}: {e.message}"
  if s.tutorials.contains name then
    return { s with pending := s.pending ++ [(name, ← decode TutorialSettings.read)] }
  else
    let all ← decode (Json.readTable TutorialSettings.read)
    return { s with pending := s.pending ++ all.entries }

/-- Reads one file of the directory. -/
def addFile (files : FileTree) (s : TutorialShelf) (f : String × TutorialFile × Path) :
    Except Error (TutorialShelf × List Event) := do
  let (name, kind, path) := f
  let text ← (files.readText path).mapError (.file path)
  match kind with
  | .markdown => return s.add name (Markdown.toHtml text)
  | .html => return s.add name text
  | .settings => return (← s.addSettings name path text, [])

/-- Reads files up to the first that is at fault. -/
def addFiles (files : FileTree) (s : TutorialShelf) :
    List (String × TutorialFile × Path) → TutorialShelf × List Event × Except Error Unit
  | [] => (s, [], .ok ())
  | f :: rest =>
    match s.addFile files f with
    | .error e => (s, [], .error e)
    | .ok (s, log) =>
      let (s, others, result) := addFiles files s rest
      (s, log ++ others, result)

/-- How deep tutorials are looked for. -/
def depth (recurse : Bool) : Nat := if recurse then 10 else 1

def loadedEvent (s : TutorialShelf) : Event :=
  .debug "tutorials loaded"
    [("tutorials", toString s.tutorials.size), ("configs", toString s.pending.length)]

/-- Reads a directory, its settings after its tutorials. -/
def addDirectory (files : FileTree) (s : TutorialShelf) (dir : Path) (recurse : Bool) :
    TutorialShelf × List Event × Except Error Unit :=
  match files.openDirectory dir with
  | .error e => (s, [], .error (.file dir e))
  | .ok place =>
    let found :=
      (files.filesBelow (fun _ => false) (depth recurse) place dir).filterMap
        TutorialFile.ofPath?
    let (settings, tutorials) := found.partition (·.2.1 = .settings)
    match s.addFiles files (tutorials ++ settings) with
    | (s, log, .ok ()) => (s, log ++ [s.loadedEvent], .ok ())
    | failed => failed

variable {σ : Type}

def load (s : TutorialShelf) (dir : Path) (recurse : Bool) :
    Act σ (TutorialShelf × Except Error Unit) := do
  let (s, log, result) := s.addDirectory (← Act.files) dir recurse
  Act.logAll log
  return (s, result)

end TutorialShelf

end RefDoc
