import RefDoc.FileTree.Basic

/-!
# Locations of extensions

A specifier such as `plugins/underscore` names a directory below one of three roots, the working
directory coming first. Where there is none, it may still name something that is built in.
-/

namespace RefDoc

inductive Location where
  | directory (path : Path)
  | builtin (name : String)
  deriving DecidableEq, Repr, Inhabited

def Location.text : Location → String
  | directory path => path.text
  | builtin name => s!"{name} (built-in)"

/-- Where extensions are looked for. -/
structure Locator where
  workingDir : Path
  /-- The extensions that the user has installed. -/
  installedDir : Option Path := none
  /-- The root of the installation. -/
  root : Path
  deriving DecidableEq, Repr

namespace Locator

def roots (l : Locator) : List Path := [l.workingDir] ++ l.installedDir.toList ++ [l.root]

/-- The paths a specifier may stand for, in order. -/
def candidates (l : Locator) (specifier : Path) : List Path :=
  if specifier.isAbsolute then [specifier] else l.roots.map fun root => root / specifier

/-- The first directory that a specifier stands for. -/
def findDirectory? (l : Locator) (files : FileTree) (specifier : String) : Option Path :=
  (l.candidates ⟨specifier⟩).find? files.isDirectory

end Locator

end RefDoc
