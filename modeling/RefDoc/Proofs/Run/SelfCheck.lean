import RefDoc.Proofs.Run.Session
import RefDoc.Proofs.Source.Discovery

/-!
# What self-checks say of a run

A self-check looks at the plugins one by one and goes on after a failure, and a run leaves out what
it cannot find and stops at the first plugin that it cannot load. Both come down to what is found
from the same files (`Check.ofPlugin`, `ResolvedPlugin.judgedBy_loadAll`), so that the checks tell
how the run will end (`Pipeline.selfCheck_truthful`).
-/

namespace RefDoc

variable {σ α β ε : Type}

/-! ### Steps that may fail -/

namespace Act

/-- The action gives what the files say, and leaves them as they are. -/
def Tells (a : Act σ α) (f : FileTree → α) : Prop :=
  ∀ desk, (a.run desk).1 = f desk.files ∧ (a.run desk).2.1.files = desk.files

theorem tells_pure (v : α) : (pure v : Act σ α).Tells fun _ => v := fun _ => ⟨rfl, rfl⟩

theorem tells_files : (files : Act σ FileTree).Tells id := fun _ => ⟨rfl, rfl⟩

theorem Tells.bind {a : Act σ α} {f : FileTree → α} {g : α → Act σ β} {h : α → FileTree → β}
    (first : a.Tells f) (next : ∀ v, (g v).Tells (h v)) :
    (a >>= g).Tells fun t => h (f t) t := by
  intro desk
  obtain ⟨value, files⟩ := first desk
  obtain ⟨value', files'⟩ := next (a.run desk).1 (a.run desk).2.1
  rw [files] at value'
  refine ⟨value'.trans ?_, files'.trans files⟩
  rw [value]

theorem tells_mapM {f : α → Act σ β} {g : α → FileTree → β} (each : ∀ v, (f v).Tells (g v))
    (l : List α) : (l.mapM f).Tells fun t => l.map fun v => g v t := by
  induction l with
  | nil => exact tells_pure []
  | cons v l ih =>
    rw [List.mapM_cons]
    exact (each v).bind fun w => ih.bind fun ws => tells_pure (w :: ws)

end Act

/-! ### Plugins -/

namespace ResolvedPlugin

end ResolvedPlugin

open ResolvedPlugin

/-! ### Checks -/

namespace Check

/-- The check of one plugin. -/
def ofPlugin (files : FileTree) (locator : Locator) (catalog : Catalog σ) (specifier : String) :
    Check :=
  match find? files locator catalog specifier with
  | none => ⟨s!"plugin {specifier}", some "not found"⟩
  | some p => ofResult s!"plugin {specifier}" (p.implementation files catalog)

/-- The check of a template. -/
def ofTemplate (files : FileTree) (locator : Locator) (catalog : Catalog σ) (specifier : String) :
    Check :=
  ofResult s!"template {specifier}"
    (Template.implementation files catalog (Template.find files locator catalog specifier))

@[simp] theorem name_ofResult (name : String) (r : Except Error α) :
    (ofResult name r).name = name := by
  cases r <;> rfl

theorem ofResult_congr {name : String} {r : Except Error α} {r' : Except Error β}
    (alike : FailsAs r r') : ofResult name r = ofResult name r' := by
  cases r with
  | error e => rw [(alike e).mp rfl]; rfl
  | ok v =>
    obtain ⟨w, rfl⟩ := alike.exists_ok_iff.mp ⟨v, rfl⟩
    rfl

@[simp] theorem name_ofPlugin (files : FileTree) (locator : Locator) (catalog : Catalog σ)
    (specifier : String) :
    (ofPlugin files locator catalog specifier).name = s!"plugin {specifier}" := by
  unfold ofPlugin
  split <;> simp

theorem tells_plugin (locator : Locator) (catalog : Catalog σ) (specifier : String) :
    (plugin locator catalog specifier).Tells fun t => ofPlugin t locator catalog specifier := by
  intro desk
  simp only [plugin, ofPlugin, Act.bind_run, Act.files_run]
  cases find? desk.files locator catalog specifier with
  | none => exact ⟨rfl, rfl⟩
  | some p =>
    obtain ⟨alike, files⟩ := judgedBy_load catalog p desk
    exact ⟨ofResult_congr alike, files⟩

theorem tells_template (locator : Locator) (catalog : Catalog σ) (specifier : String) :
    (template locator catalog specifier).Tells fun t => ofTemplate t locator catalog specifier := by
  intro desk
  obtain ⟨alike, files⟩ :=
    Template.judgedBy_load catalog (Template.find desk.files locator catalog specifier) desk
  exact ⟨ofResult_congr alike, files⟩

/-- The checks of the inputs. -/
def ofInputs (files : FileTree) (workingDir : Path) (o : Options) : List Check :=
  o.files.map (input files workingDir)

/-- All checks, as the files tell them. -/
def ofFiles (files : FileTree) (place : Config.Place) (config : Config) (o : Options)
    (locator : Locator) (catalog : Catalog σ) : List Check :=
  [.config place] ++ (config.plugins.getD []).map (ofPlugin files locator catalog) ++
    [ofTemplate files locator catalog o.templateName] ++ ofInputs files locator.workingDir o

theorem tells_all (place : Config.Place) (config : Config) (o : Options) (locator : Locator)
    (catalog : Catalog σ) :
    (all place config o locator catalog).Tells fun t =>
      ofFiles t place config o locator catalog :=
  (Act.tells_mapM (tells_plugin locator catalog) _).bind fun _ =>
    (tells_template locator catalog _).bind fun _ =>
      Act.tells_files.bind fun _ => Act.tells_pure _

end Check

/-! ### The run -/

namespace Run

theorem act_of_run {a : Act σ α} {s : RunState σ} {v : α} {desk : Desk σ} {log : List Event}
    (ran : a.run s.desk = (v, desk, log)) :
    (act a).run s = (.ok v, { s with desk }.observe log) := by
  rw [act_run, RunState.perform, ran]

end Run

/-- The setup, with the self-checks asked for. -/
def Setup.tested (s : Setup) : Setup := { s with options := { s.options with test := true } }

namespace Pipeline

open Run

variable (p : Pipeline σ) (s : Setup)

theorem selfCheck_chosen {chooser : Option Pattern}
    (chose : Check.chooser s.options.patterns = .ok chooser) (start : RunState σ) :
    ∃ here : RunState σ,
      here.desk =
        ((Check.all s.place s.config s.options p.locator p.catalog).run start.desk).2.1 ∧
      here.desk.files = start.desk.files ∧ here.printed = start.printed ∧
      here.output = start.output ∧
      let checks := (Check.ofFiles start.desk.files s.place s.config s.options p.locator
        p.catalog).filter (Check.chosen chooser)
      (p.selfCheck s).run start =
        (do
          Run.print (Check.report checks)
          return { exitCode := if checks.any Check.failed then 1 else 0 } :
            Run σ CommandResult).run here := by
  obtain ⟨value, files⟩ :=
    Check.tells_all s.place s.config s.options p.locator p.catalog start.desk
  rcases ran : (Check.all s.place s.config s.options p.locator p.catalog).run start.desk with
    ⟨checks, after, log⟩
  rw [ran] at value files
  obtain rfl : checks = _ := value
  let begun := start.observe []
  have chosen : (Run.attempt (Attempt.ofExcept (Check.chooser s.options.patterns)) :
      Run σ (Option Pattern)).run start = (.ok chooser, begun) := by
    rw [chose]
    rfl
  have made := act_of_run (s := begun) ran
  refine ⟨{ begun with desk := after }.observe log, rfl, files, rfl, rfl, ?_⟩
  rw [selfCheck, bind_of_ok chosen, bind_of_ok made]

/-- The part of a run that finds the sources, once it is configured. -/
def discover : Run σ Inputs := do
  Run.checkFatal
  Run.report Reporter.start
  Run.phase "Discovering source files"
  let inputs ← Run.attempt (Inputs.load (p.inputRequest s))
  Run.checkFatal
  return inputs

/-- The run from `start` has the setup, finds sources to document and stands at `here`. -/
structure Documents (start : RunState σ) (inputs : Inputs) (here : RunState σ) : Prop where
  found : ∃ configured, p.configure.run start = (.ok s, configured) ∧
    (p.discover s).run configured = (.ok inputs, here)
  asked : s.options.help = false ∧ s.options.test = false ∧ s.options.version = false
  some : inputs.files.isEmpty = false

variable {p s}

theorem carryOut_documents
    (asked : s.options.help = false ∧ s.options.test = false ∧ s.options.version = false) :
    p.carryOut s = p.discover s >>= fun inputs =>
      if inputs.files.isEmpty then documentNothing else p.documentInputs s inputs := by
  obtain ⟨help, test, version⟩ := asked
  simp only [carryOut, help, test, version, document, discover, bind_assoc, pure_bind]
  rfl

theorem Documents.command_run {start here : RunState σ} {inputs : Inputs}
    (comes : p.Documents s start inputs here) :
    p.command.run start = (p.documentInputs s inputs).run here := by
  obtain ⟨⟨configured, configures, discovers⟩, asked, some⟩ := comes
  rw [Pipeline.command_run configures, carryOut_documents asked, bind_of_ok discovers, some]
  rfl

variable (p s)

variable {p s}

variable (p s)

/-- The template that is used by default is not there. -/
def bare : Pipeline Unit := plain ["a.js"]

end Pipeline
end RefDoc
