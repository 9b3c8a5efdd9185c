import RefDoc.Run.Pipeline

/-!
# The program

The run of one process: what its host says becomes a run of the pipeline, and what came of it
becomes output and an exit code. Whoever gives the program wrong arguments is shown how to use it.
-/

namespace RefDoc

/-- What the program knows of its surroundings. -/
structure Surroundings where
  files : FileTree
  signals : HostSignals
  /-- Where programs keep the data of a user. -/
  dataDir : Option Path := none

/-- What a process leaves behind. -/
structure ProgramResult where
  files : FileTree
  /-- What goes to the standard output. -/
  output : String
  /-- What goes to the standard error output, without the log. -/
  complaint : String
  exitCode : Nat
  journal : List Event
  logSettings : Option LogSettings

/-- The part of the log that is shown. -/
def ProgramResult.shownLog (r : ProgramResult) : List String :=
  match r.logSettings with
  | none => []
  | some settings =>
    (r.journal.filter fun e => settings.level.rank ≤ e.level.rank).map (·.line)

namespace Surroundings

def failureNote : String :=
  "Exiting docweave because an error occurred. See the previous log messages for details."

/-- Where the user installs extensions. -/
def installedDir (s : Surroundings) : Option Path :=
  s.dataDir.map fun dir => dir / ⟨"docweave"⟩ / ⟨"extensions"⟩

/-- What is said of an error, on the standard output and on that for errors. -/
def explain : Error → String × String
  | .badArguments message => (Options.helpText ++ "\n", message ++ "\n\n")
  | e => ("", failureNote ++ "\n" ++ e.message ++ "\n")

/-- The pipeline that a process runs. -/
def pipeline (s : Surroundings) (roots : HostRoots) : Pipeline Unit :=
  { roots, installedDir := s.installedDir }

def run (s : Surroundings) : ProgramResult :=
  let start : RunState Unit := { desk := { files := s.files, notes := () } }
  let (host, start) := (Run.attempt s.signals.start).run start
  match host with
  | .error e =>
    { files := s.files, output := "", complaint := e.message ++ "\n", exitCode := 1
      journal := start.journal, logSettings := none }
  | .ok (_, roots) =>
    let (outcome, finish) := (s.pipeline roots).run start
    let (shown, complaint) := (outcome.error.map explain).getD ("", "")
    { files := finish.desk.files
      output := finish.printed ++ shown
      complaint
      exitCode := outcome.exitCode
      journal := finish.journal
      logSettings := finish.logSettings }

end Surroundings

end RefDoc
