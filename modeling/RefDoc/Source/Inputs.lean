import RefDoc.Source.Readme
import RefDoc.Source.Scan

/-!
# Inputs

What a run is given: the paths of the command line and of the configuration. The package file and
the readme are told by their names and never become sources; unless one is named explicitly, the
first of each is read. All other paths are scanned.
-/

namespace RefDoc

open Json

/-- What a file among the inputs is for, if it is no source. -/
inductive InputRole where
  | package
  | readme
  deriving DecidableEq, Repr

def packagePattern : Pattern :=
  .seqs [.assertion (.boundary false), .anyCase "package.json", .assertion .textEnd]

def readmePattern : Pattern :=
  .seqs
    [.alt (.seq (.assertion (.boundary false)) (.anyCase "README")) (.anyCase ".md"),
      .assertion .textEnd]

namespace Path

def isPackageFile (p : Path) : Bool := packagePattern.occursIn p.text.toList

def isReadmeFile (p : Path) : Bool := readmePattern.occursIn p.text.toList

def role? (p : Path) : Option InputRole :=
  if p.isPackageFile then some .package else if p.isReadmeFile then some .readme else none

end Path

structure InputRequest where
  /-- The paths of the command line. -/
  positional : List Path := []
  /-- The rules of the configuration. -/
  rules : Option SourceRules := none
  /-- The package file, if named explicitly. -/
  package : Option Path := none
  readme : Option Path := none
  recurse : Bool := false
  workingDir : Path

structure Inputs where
  /-- The paths to scan. -/
  candidates : List Path := []
  /-- The sources found. -/
  files : List Path := []
  package : Option Json := none
  /-- The readme as HTML. -/
  readme : Option String := none
  deriving Inhabited

namespace InputRequest

/-- All paths given: those of the command line first. -/
def paths (r : InputRequest) : List Path :=
  r.positional ++ (r.rules.map (·.included)).getD []

def candidates (r : InputRequest) : List Path := r.paths.filter (·.role?.isNone)

/-- The paths with a role in the order in which they are looked at: those named explicitly, then
those among the inputs. -/
def claims (r : InputRequest) : List (InputRole × Path) :=
  (r.package.map fun p => (.package, p)).toList ++ (r.readme.map fun p => (.readme, p)).toList ++
    r.paths.filterMap fun p => p.role?.map fun role => (role, p)

/-- The first path for each role. -/
def firstClaims (claims : List (InputRole × Path)) : List (InputRole × Path) :=
  claims.foldl (fun first c => if first.any (·.1 = c.1) then first else first ++ [c]) []

end InputRequest

/-- The content of a package file, which may carry comments. -/
def FileTree.readPackage (t : FileTree) (p : Path) : Except Event Json :=
  match t.readText p with
  | .error e =>
    .error (.error "unable to read the package file" [("path", p.text), ("error", e.message)])
  | .ok text =>
    match decodeText readJson (Config.blankComments text) with
    | .ok v => .ok v
    | .error e =>
      .error (.error "unable to parse the package file" [("path", p.text), ("error", e.message)])

namespace Inputs

/-- The inputs with the file of one role read, or the event that says why it is not. -/
def take (t : FileTree) (workingDir : Path) (s : Inputs × List Event) (c : InputRole × Path) :
    Inputs × List Event :=
  let (inputs, log) := s
  let path := workingDir / c.2
  match c.1 with
  | .package =>
    match t.readPackage path with
    | .ok v => ({ inputs with package := some v }, log)
    | .error e => (inputs, log ++ [e])
  | .readme =>
    match t.readReadme path with
    | .ok html => ({ inputs with readme := some html }, log)
    | .error e =>
      let fields := [("path", path.text), ("error", e.message)]
      (inputs, log ++ [.error "unable to read the readme file" fields])

/-- The inputs before any scan. -/
def collect (t : FileTree) (r : InputRequest) : Inputs × List Event :=
  let start : Inputs := { candidates := r.candidates }
  let (inputs, log) :=
    (InputRequest.firstClaims r.claims).foldl (take t r.workingDir) (start, [])
  (inputs, log ++ [.debug "source list built" [("candidates", toString inputs.candidates.length)]])

variable {σ : Type}

/-- The inputs with the sources found. Without rules there is no scan. -/
def load (r : InputRequest) : Attempt σ Inputs := do
  let (inputs, log) := collect (← Attempt.files) r
  Attempt.act (Act.logAll log)
  match r.rules with
  | none =>
    Attempt.log (.debug "no source configuration, skipping scan")
    return inputs
  | some rules =>
    if inputs.candidates.isEmpty then return inputs
    let filter ← Attempt.ofExcept (SourceFilter.ofRules rules r.workingDir)
    let (files, log) :=
      (← Attempt.files).scan filter (scanDepth r.recurse) r.workingDir inputs.candidates
    Attempt.act (Act.logAll log)
    Attempt.log (.info "source files resolved" [("files", toString files.length)])
    return { inputs with files }

end Inputs

end RefDoc
