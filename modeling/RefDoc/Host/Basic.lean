import RefDoc.Desk
import RefDoc.Host.Uri

/-!
# Hosts

A run happens in a program of its own or inside another one, which then names its module by a URI.
The host decides where the installation is and which directory the run works in.
-/

namespace RefDoc

inductive HostKind where
  | embedded
  | standalone
  deriving DecidableEq, Repr, Inhabited

def HostKind.label : HostKind → String
  | embedded => "Embedded"
  | standalone => "Standalone"

/-- What a process knows of its host. -/
structure HostSignals where
  /-- The URI of the module that the run is embedded in. -/
  moduleUri : Option String := none
  /-- The working directory as the shell names it. -/
  shellDir : Option Path := none
  executable : Option Path := none
  currentDir : Option Path := none
  /-- The words of the command line, the name of the program being the first. -/
  words : List String := []
  deriving DecidableEq, Repr, Inhabited

/-- What a run starts from. -/
structure HostRoots where
  root : Path
  workingDir : Path
  arguments : List String
  deriving DecidableEq, Repr, Inhabited

/-- The variable that holds the URI of the module. -/
def moduleVariable : String := "DOCWEAVE_HOST_MODULE"

/-- What a path stands for after one step along a link. -/
def FileTree.followOnce (t : FileTree) (p : Path) : Path :=
  match t.linkTarget? p with
  | none => p
  | some target => (p.parent?.map (·.join target)).getD target

/-- The directory that relative paths start from, as a path. -/
def FileTree.homePath (t : FileTree) : Path := ⟨"/" ++ "/".intercalate t.home⟩

namespace HostSignals

/-- A module wins over an executable. -/
def detect (s : HostSignals) : Except Error HostKind :=
  if s.moduleUri.isSome then .ok .embedded
  else if s.executable.isSome then .ok .standalone
  else .error .unknownHost

def arguments (s : HostSignals) : List String := s.words.drop 1

/-- The directory of a file, or the file itself if it is in none. -/
def directoryOf (p : Path) : Path := p.parent?.getD p

/-- The installation is where the module is; the shell decides the working directory. -/
def embeddedRoots (s : HostSignals) : Except Error HostRoots :=
  match s.moduleUri with
  | none => .error .unknownHost
  | some uri =>
    match Uri.path? uri with
    | none => .error (.config s!"{moduleVariable} is not a file URI: {uri}")
    | some path =>
      let root := directoryOf path
      .ok ⟨root, (s.shellDir.or s.currentDir).getD root, s.arguments⟩

/-- The installation is where the executable is, or where it is a link to. -/
def standaloneRoots (files : FileTree) (s : HostSignals) : Except Error HostRoots :=
  match s.executable with
  | none => .error .unknownHost
  | some path =>
    .ok ⟨directoryOf (files.followOnce path), s.currentDir.getD files.homePath, s.arguments⟩

def roots (files : FileTree) (s : HostSignals) : HostKind → Except Error HostRoots
  | .embedded => s.embeddedRoots
  | .standalone => s.standaloneRoots files

variable {σ : Type}

/-- Finds the host and what it says. -/
def start (s : HostSignals) : Attempt σ (HostKind × HostRoots) := do
  let kind ← Attempt.ofExcept s.detect
  let roots ← Attempt.ofExcept (s.roots (← Attempt.files) kind)
  Attempt.log <| .debug "environment initialized"
    [("host", kind.label), ("root_dir", roots.root.text), ("working_dir", roots.workingDir.text)]
  return (kind, roots)

end HostSignals

end RefDoc
