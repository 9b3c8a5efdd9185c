import RefDoc.Desk
import RefDoc.Doclet.Collection

/-!
# Parser events

The parser tells its listener about files, comments and doclets as it meets them. A listener may
change what is not final yet: the list of files before parsing, a comment, a new doclet. There is at
most one handler for each event.
-/

namespace RefDoc

inductive EventKind where
  | parseBegin
  | fileBegin
  | commentFound
  | newDoclet
  | fileComplete
  | parseComplete
  | processingComplete
  deriving DecidableEq, Repr, Inhabited

namespace EventKind

def name : EventKind → String
  | parseBegin => "parseBegin"
  | fileBegin => "fileBegin"
  | commentFound => "jsdocCommentFound"
  | newDoclet => "newDoclet"
  | fileComplete => "fileComplete"
  | parseComplete => "parseComplete"
  | processingComplete => "processingComplete"

def all : List EventKind :=
  [parseBegin, fileBegin, commentFound, newDoclet, fileComplete, parseComplete, processingComplete]

end EventKind

/-- A handler for one event. What it returns replaces what it was given. -/
inductive Handler (σ : Type) where
  | parseBegin (run : List Path → Act σ (List Path))
  | fileBegin (run : Path → Act σ Unit)
  | commentFound (run : String → Path → Nat → Act σ String)
  | newDoclet (run : Doclet → Act σ Doclet)
  | fileComplete (run : Path → Act σ Unit)
  | parseComplete (run : List Path → Collection → Act σ Unit)
  | processingComplete (run : Collection → Act σ Unit)

variable {σ : Type}

def Handler.kind : Handler σ → EventKind
  | parseBegin _ => .parseBegin
  | fileBegin _ => .fileBegin
  | commentFound _ => .commentFound
  | newDoclet _ => .newDoclet
  | fileComplete _ => .fileComplete
  | parseComplete _ => .parseComplete
  | processingComplete _ => .processingComplete

/-- The handlers of a parser. -/
structure Handlers (σ : Type) where
  parseBegin : Option (List Path → Act σ (List Path)) := none
  fileBegin : Option (Path → Act σ Unit) := none
  commentFound : Option (String → Path → Nat → Act σ String) := none
  newDoclet : Option (Doclet → Act σ Doclet) := none
  fileComplete : Option (Path → Act σ Unit) := none
  parseComplete : Option (List Path → Collection → Act σ Unit) := none
  processingComplete : Option (Collection → Act σ Unit) := none

namespace Handlers

def set (hs : Handlers σ) : Handler σ → Handlers σ
  | .parseBegin run => { hs with parseBegin := some run }
  | .fileBegin run => { hs with fileBegin := some run }
  | .commentFound run => { hs with commentFound := some run }
  | .newDoclet run => { hs with newDoclet := some run }
  | .fileComplete run => { hs with fileComplete := some run }
  | .parseComplete run => { hs with parseComplete := some run }
  | .processingComplete run => { hs with processingComplete := some run }

def has (hs : Handlers σ) : EventKind → Bool
  | .parseBegin => hs.parseBegin.isSome
  | .fileBegin => hs.fileBegin.isSome
  | .commentFound => hs.commentFound.isSome
  | .newDoclet => hs.newDoclet.isSome
  | .fileComplete => hs.fileComplete.isSome
  | .parseComplete => hs.parseComplete.isSome
  | .processingComplete => hs.processingComplete.isSome

end Handlers

end RefDoc
