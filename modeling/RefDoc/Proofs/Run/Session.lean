import RefDoc.Proofs.Hierarchy.Appending
import RefDoc.Proofs.Parser.Protocol
import RefDoc.Proofs.Parser.Recorded
import RefDoc.Proofs.Run.Following
import RefDoc.Proofs.Run.Pedantic
import RefDoc.Proofs.Source.Discovery
import RefDoc.Proofs.Table
import RefDoc.Run.Session

/-!
# The session of a run

A run that dumps its doclets does with the sources what a session does
(`Pipeline.run_explain_eq_session`). What the run does besides, telling the log and the gate of its
stages, follows doing nothing; the parse under the gate tracks the parse that nobody watches, file
by file.
-/

namespace RefDoc

variable {σ : Type}

open Run

/-! ### Parsing -/

/-- A parse that its own check never stops. -/
abbrev Watch.unstopped : Watch σ (StateT ParseHistory (Act σ)) := .recording fun _ _ => false

namespace Pipeline

variable (p : Pipeline σ)

/-- The session that has the sources, the plugins and the options of a run. -/
def session (config : Config) (options : Options) : Session σ :=
  { workingDir := p.roots.workingDir, config, options
    catalog := p.catalog, installedDir := p.installedDir }

/-- The job of a run. -/
def job (s : Setup) (inputs : Inputs) : ParseJob σ :=
  { config := s.config, options := s.options, package := inputs.package
    locator := p.locator, catalog := p.catalog }

/-- What a parse gives that its own check never stops, with the parser. -/
def parsed (s : Setup) (inputs : Inputs) : Attempt σ (Parser σ × Collection) := do
  let parser ← (p.job s inputs).parser
  let (_, doclets) ← Attempt.act (((p.job s inputs).parse .unstopped parser inputs.files).run' {})
  return (parser, doclets)

/-- The run is asked to dump its doclets, with the options `o` and none from the configuration. -/
structure Explains (o : Options) (s : Setup) : Prop where
  arguments : p.arguments = .ok { o with explain := true }
  documents : o.help = false ∧ o.test = false ∧ o.version = false
  unset : s.config.options = none
  /-- The installation root is the working directory. -/
  rooted : p.roots.root = p.roots.workingDir
  post : p.post = .standard

variable {p} {s : Setup} {o : Options}

theorem Explains.options {files : FileTree} (asked : p.Explains o s)
    (configured : p.setup? files = .ok s) :
    s.options = { o.merge none with explain := true } := by
  obtain ⟨cli, place, read, -, merged⟩ := of_setup? configured
  rw [asked.arguments] at read
  cases read
  rw [merged, asked.unset]
  rfl

/-- What a dump prints. -/
def shown (doclets : Collection) : String :=
  (Json.array (doclets.doclets.map Doclet.toJson)).pretty

/-- The part ends as the attempt does, and prints the doclets that the attempt gives. -/
def Shows (r : Run σ CommandResult) (a : Attempt σ Collection) (s : RunState σ) : Prop :=
  (r.run s).2.desk = (a.run.run s.desk).2.1 ∧
    match (a.run.run s.desk).1 with
    | .ok doclets =>
      (r.run s).1 = .ok { doclets := some doclets } ∧
        (r.run s).2.printed = s.printed ++ (shown doclets ++ "\n")
    | .error e => (r.run s).1 = .error e ∧ (r.run s).2.printed = s.printed

/-- It leaves a check that stops the parse before the first file. -/
def halting : Plugin Unit := { hook := fun parser => pure { parser with stop := fun _ _ => true } }

def halted : Pipeline Unit :=
  { plain ["--explain", "a.js"] with catalog := { plugins := .ofList [("p/halt", .of halting)] } }

end Pipeline

end RefDoc
