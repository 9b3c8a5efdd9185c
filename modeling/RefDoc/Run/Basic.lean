import RefDoc.Parser.Basic
import RefDoc.Report.Gate
import RefDoc.Template.Basic

/-!
# Runs

A run goes through stages. Beside working on a desk it prints, tells how far it is, and is watched
by the gate, which sees every event that is logged. All that happens in a run is kept in one history,
in the order in which it happens; the log, the stages and the progress are what is found there.
-/

namespace RefDoc

inductive Stage where
  | idle
  | configuring
  | helpPrinted
  | parsing
  | postprocessing
  | dumped
  | rendering
  | done
  | failed
  deriving DecidableEq, Repr, Inhabited

def Stage.label : Stage → String
  | idle => "Idle"
  | configuring => "Configuring"
  | helpPrinted => "HelpPrinted"
  | parsing => "Parsing"
  | postprocessing => "Postprocessing"
  | dumped => "Dumped"
  | rendering => "Rendering"
  | done => "Done"
  | failed => "Failed"

/-- How far a run is. -/
inductive Progress where
  | phase (name : String)
  /-- A file has been parsed, one of `total`. -/
  | file (path : Path) (position total : Nat)
  | done (doclets : Nat)
  deriving DecidableEq, Repr

/-- What may happen in a run. -/
inductive Happening where
  | logged (e : Event)
  | entered (stage : Stage)
  | told (p : Progress)
  /-- The gate is armed. -/
  | armed (pedantic : Bool)
  /-- A source file is taken up. -/
  | opened (file : Path)
  /-- Tutorials are looked for in a directory. -/
  | sought (tutorials : Path)
  /-- A template begins to publish. -/
  | published
  /-- A template ends with an error. -/
  | abandoned (e : Error)
  deriving DecidableEq, Repr

namespace Happening

def event? : Happening → Option Event
  | logged e => some e
  | _ => none

def stage? : Happening → Option Stage
  | entered stage => some stage
  | _ => none

def progress? : Happening → Option Progress
  | told p => some p
  | _ => none

end Happening

/-- Where a run prints to. -/
structure Output where
  /-- Given what has been printed and a text, what is taken of the text, and the fault if there is
  one. -/
  take : String → String → String × Option String := fun _ text => (text, none)

structure RunState (σ : Type) where
  desk : Desk σ
  history : List Happening := []
  reporter : Reporter := {}
  printed : String := ""
  output : Output := {}
  /-- How the log is shown, once the options are known. -/
  logSettings : Option LogSettings := none

abbrev Run (σ : Type) := ExceptT Error (StateM (RunState σ))

variable {σ α : Type}

namespace RunState

def journal (s : RunState σ) : List Event := s.history.filterMap Happening.event?

/-- The stages entered, in order. Every run begins idle. -/
def stages (s : RunState σ) : List Stage := .idle :: s.history.filterMap Happening.stage?

def progress (s : RunState σ) : List Progress := s.history.filterMap Happening.progress?

def record (s : RunState σ) (h : Happening) : RunState σ := { s with history := s.history ++ [h] }

/-- The events are logged, and the gate sees them. -/
def observe (s : RunState σ) (es : List Event) : RunState σ :=
  { s with
    history := s.history ++ es.map Happening.logged
    reporter := s.reporter.observeAll es }

/-- What an action gives, and the state behind it. -/
def perform (s : RunState σ) (a : Act σ α) : α × RunState σ :=
  let (v, desk, log) := a.run s.desk
  (v, { s with desk }.observe log)

end RunState

namespace Run

def act (a : Act σ α) : Run σ α := fun s =>
  let (v, s) := s.perform a
  (.ok v, s)

def attempt (a : Attempt σ α) : Run σ α := fun s => s.perform a.run

def log (e : Event) : Run σ Unit := fun s => (.ok (), s.observe [e])

def files : Run σ FileTree := act Act.files

/-- What the output is called in an error. -/
def outputName : Path := ⟨"<output>"⟩

def print (text : String) : Run σ Unit := fun s =>
  let (taken, fault) := s.output.take s.printed text
  let s := { s with printed := s.printed ++ taken }
  match fault with
  | none => (.ok (), s)
  | some reason => (.error (.io outputName reason), s)

def record (h : Happening) : Run σ Unit := modify fun s => s.record h

def tell (p : Progress) : Run σ Unit := record (.told p)

def phase (name : String) : Run σ Unit := tell (.phase name)

def report (change : Reporter → Reporter) : Run σ Unit :=
  modify fun s => { s with reporter := change s.reporter }

/-- Enters a stage. -/
def enter (stage : Stage) : Run σ Unit := record (.entered stage)

def enteredEvent (stage : Stage) : Event := .debug "stage transition" [("to", stage.label)]

/-- The event for a change of stage that names the stage before. -/
def leftEvent (before : Option Stage) (stage : Stage) : Event :=
  let shown :=
    match before with
    | some s => s!"Some({s.label})"
    | none => "None"
  .debug "stage transition" [("from", shown), ("to", stage.label)]

def transition (stage : Stage) : Run σ Unit := do
  log (leftEvent (← get).stages.getLast? stage)
  enter stage

/-- Arms the gate, which is logged. -/
def arm (pedantic : Bool) : Run σ Unit := do
  report (·.arm pedantic)
  record (.armed pedantic)
  log (← get).reporter.armedEvent

/-- Ends with an error if the gate asks for it. -/
def checkFatal : Run σ Unit := fun s => (s.reporter.gate.check, s)

/-- A parse is stopped by the gate, and all of it goes into the history. -/
def watch : Watch σ (Run σ) where
  act := act
  stop := return (← get).reporter.gate.raised
  opened file := record (.opened file)
  parsed file position total := tell (.file file position total)

def publish (t : Template σ) (doclets : Collection) (options : Options) (tutorials : TutorialTree) :
    Run σ Unit := do
  record .published
  match ← act (t.publish doclets options tutorials).run with
  | .ok () => return ()
  | .error e =>
    record (.abandoned e)
    throw e

end Run

end RefDoc
