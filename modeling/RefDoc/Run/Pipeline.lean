import RefDoc.Host.Basic
import RefDoc.Json.Printer
import RefDoc.Options.Arguments
import RefDoc.Run.Basic
import RefDoc.Run.Job
import RefDoc.Run.SelfCheck
import RefDoc.Source.Inputs
import RefDoc.Tutorial.Nesting

/-!
# The pipeline

A run of the command line: the options and the configuration are read, then the run prints help or
its version, checks itself, or documents the sources. Between the steps the gate may stop it.
-/

namespace RefDoc

/-- What a run is made of. -/
structure Pipeline (σ : Type) where
  roots : HostRoots
  /-- Files to document beside those of the command line, which come after them. -/
  positional : List Path := []
  catalog : Catalog σ := .builtin
  /-- Where the user installs extensions. -/
  installedDir : Option Path := none
  post : PostProcessor σ := .standard

/-- A configured run. -/
structure Setup where
  options : Options
  config : Config
  /-- Where the configuration was found. -/
  place : Config.Place

/-- How a run ended. -/
structure Outcome where
  /-- All stages in the order in which they were entered. -/
  stages : List Stage
  /-- The final doclets, if sources were documented. -/
  doclets : Option Collection
  exitCode : Nat
  /-- What ended the run, if it did not end by itself. -/
  error : Option Error

/-- What a command that ended by itself gives. -/
structure CommandResult where
  exitCode : Nat := 0
  doclets : Option Collection := none

namespace Pipeline

variable {σ : Type}

def locator (p : Pipeline σ) : Locator :=
  { workingDir := p.roots.workingDir, installedDir := p.installedDir, root := p.roots.root }

/-! ### Configuring -/

/-- The options of the command line. -/
def arguments (p : Pipeline σ) : Except Error Options := do
  let o ← Options.ofArguments p.roots.arguments
  .ok { o with files := p.positional ++ o.files }

def environmentEvent (s : Setup) : Event :=
  .debug "Environment info"
    [("config", s.config.toJson.compact), ("opts", s.options.toJson.compact)]

/-- What the arguments and the configuration come to. -/
def setup (p : Pipeline σ) : Attempt σ Setup := do
  let cli ← Attempt.ofExcept p.arguments
  let explicit := cli.configure.map p.roots.workingDir.join
  let place := Config.find (← Attempt.files) p.roots.root explicit
  let config ← Config.load place
  return { options := cli.merge config.options, config, place }

/-- Tells the log and the gate of the options. -/
def announce (s : Setup) : Run σ Unit := do
  let o := s.options
  modify fun state =>
    { state with logSettings := some (.ofFlags o.debug o.verbose o.nocolor) }
  if !o.test then Run.arm o.pedantic
  Run.log (.debug Options.versionLine)
  Run.log (environmentEvent s)

def configure (p : Pipeline σ) : Run σ Setup := do
  Run.transition .configuring
  Run.phase "Configuring"
  let setup ← Run.attempt p.setup
  announce setup
  return setup

/-! ### Help and checks -/

def helpPage : String := Options.versionLine ++ "\n\n" ++ Options.helpText ++ "\n"

def printHelp : Run σ CommandResult := do
  Run.print helpPage
  Run.transition .helpPrinted
  return {}

def selfCheck (p : Pipeline σ) (s : Setup) : Run σ CommandResult := do
  let chooser ← Run.attempt (Attempt.ofExcept (Check.chooser s.options.patterns))
  let checks ← Run.act (Check.all s.place s.config s.options p.locator p.catalog)
  let chosen := checks.filter (Check.chosen chooser)
  Run.print (Check.report chosen)
  return { exitCode := if chosen.any Check.failed then 1 else 0 }

/-! ### Documenting -/

def inputRequest (p : Pipeline σ) (s : Setup) : InputRequest :=
  { positional := s.options.files
    rules := s.config.source
    package := s.options.package
    readme := s.options.readme
    recurse := s.options.recurse
    workingDir := p.roots.workingDir }

def parse (p : Pipeline σ) (s : Setup) (inputs : Inputs) :
    Run σ (Parser σ × Collection) := do
  Run.enter .parsing
  Run.log (Run.enteredEvent .parsing)
  Run.phase "Parsing source files"
  let job : ParseJob σ :=
    { config := s.config, options := s.options, package := inputs.package
      locator := p.locator, catalog := p.catalog }
  let parser ← Run.attempt job.parser
  Run.checkFatal
  let (files, doclets) ← job.parse Run.watch parser inputs.files
  Run.log <| .info "parsing complete"
    [("files", toString files.length), ("doclets", toString doclets.size)]
  Run.checkFatal
  return (parser, doclets)

def postProcess (p : Pipeline σ) (parser : Parser σ) (doclets : Collection) :
    Run σ Collection := do
  Run.enter .postprocessing
  Run.log (Run.enteredEvent .postprocessing)
  Run.phase "Post-processing"
  let doclets ← Run.act (ParseJob.postProcess p.post parser doclets)
  Run.checkFatal
  return doclets

def dump (doclets : Collection) : Run σ Unit := do
  Run.transition .dumped
  Run.print ((Json.array (doclets.doclets.map Doclet.toJson)).pretty ++ "\n")

/-- The tree of the tutorials, if there are any. -/
def tutorials (p : Pipeline σ) (options : Options) : Run σ TutorialTree := do
  match options.tutorials with
  | none => return .root []
  | some dir =>
    Run.phase "Resolving tutorials"
    let dir := p.roots.workingDir / dir
    Run.record (.sought dir)
    let (shelf, result) ← Run.act (TutorialShelf.load {} dir options.recurse)
    Run.attempt (Attempt.ofExcept result)
    return (← Run.act shelf.resolve).tree

/-- Hands everything to the template. -/
def renderWith (p : Pipeline σ) (s : Setup) (inputs : Inputs) (doclets : Collection)
    (tutorials : TutorialTree) : Run σ Unit := do
  Run.checkFatal
  let location := Template.find (← Run.files) p.locator p.catalog s.options.templateName
  let template ← Run.attempt (Template.load p.catalog location)
  let options :=
    { s.options with
      destination := s.options.destination.map p.roots.workingDir.join
      readmeHtml := inputs.readme }
  Run.phase "Generating output files"
  Run.log (.info "Generating output files..." [("template", location.text)])
  Run.publish template doclets options tutorials
  Run.log (.info "complete.")

def render (p : Pipeline σ) (s : Setup) (inputs : Inputs) (doclets : Collection) :
    Run σ Unit := do
  Run.transition .rendering
  p.renderWith s inputs doclets (← p.tutorials s.options)

def noInputs : String := "There are no input files to process.\n\n"

/-- Says that there is nothing to document, and how to use the program. -/
def documentNothing : Run σ CommandResult := do
  Run.print noInputs
  let result ← printHelp
  Run.report Reporter.finish
  return result

/-- Ends the work on doclets that have been dumped or rendered. -/
def conclude (doclets : Collection) : Run σ CommandResult := do
  Run.checkFatal
  Run.report Reporter.finish
  Run.tell (.done doclets.size)
  return { doclets := some doclets }

def documentInputs (p : Pipeline σ) (s : Setup) (inputs : Inputs) : Run σ CommandResult := do
  let (parser, doclets) ← p.parse s inputs
  let doclets ← p.postProcess parser doclets
  if s.options.explain then dump doclets else p.render s inputs doclets
  conclude doclets

def document (p : Pipeline σ) (s : Setup) : Run σ CommandResult := do
  Run.report Reporter.start
  Run.phase "Discovering source files"
  let inputs ← Run.attempt (Inputs.load (p.inputRequest s))
  Run.checkFatal
  if inputs.files.isEmpty then documentNothing else p.documentInputs s inputs

/-! ### The run -/

/-- Does what the options ask for. -/
def carryOut (p : Pipeline σ) (s : Setup) : Run σ CommandResult := do
  Run.checkFatal
  if s.options.help then printHelp
  else if s.options.test then p.selfCheck s
  else if s.options.version then do
    Run.print (Options.versionLine ++ "\n")
    return {}
  else p.document s

def command (p : Pipeline σ) : Run σ CommandResult := do
  p.carryOut (← p.configure)

/-- Runs the pipeline. The state says what was logged, printed and written. -/
def run (p : Pipeline σ) (start : RunState σ) : Outcome × RunState σ :=
  match p.command.run start with
  | (.ok result, s) =>
    let s := ((Run.transition .done).run s).2
    ({ stages := s.stages
       doclets := result.doclets
       exitCode := max result.exitCode (s.reporter.gate.exitCode true)
       error := none }, s)
  | (.error e, s) =>
    let s := ((Run.transition .failed).run s).2
    ({ stages := s.stages, doclets := none, exitCode := 1, error := some e }, s)

end Pipeline

end RefDoc
