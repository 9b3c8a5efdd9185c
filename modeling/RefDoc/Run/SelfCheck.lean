import RefDoc.Config.Load
import RefDoc.Extension.Plugin
import RefDoc.Extension.Template
import RefDoc.Options.Basic
import RefDoc.Pattern.Reader

/-!
# Self-checks

A run can be asked to check its configuration instead of doing its work: whether the configuration,
the plugins, the template and the inputs are there. Patterns choose checks by their names.
-/

namespace RefDoc

structure Check where
  name : String
  /-- Why the check failed, if it did. -/
  failure : Option String
  deriving DecidableEq, Repr, Inhabited

namespace Check

variable {σ : Type}

def ofResult {α : Type} (name : String) : Except Error α → Check
  | .ok _ => ⟨name, none⟩
  | .error e => ⟨name, some e.message⟩

def config (place : Config.Place) : Check :=
  match place with
  | .file path => ⟨s!"config {path.text}", none⟩
  | .standard => ⟨"config built-in defaults", none⟩

def plugin (locator : Locator) (catalog : Catalog σ) (specifier : String) : Act σ Check := do
  let name := s!"plugin {specifier}"
  match ResolvedPlugin.find? (← Act.files) locator catalog specifier with
  | none => return ⟨name, some "not found"⟩
  | some p => return ofResult name (← (p.load catalog).run)

def template (locator : Locator) (catalog : Catalog σ) (specifier : String) : Act σ Check := do
  let location := Template.find (← Act.files) locator catalog specifier
  return ofResult s!"template {specifier}" (← (Template.load catalog location).run)

def input (files : FileTree) (workingDir path : Path) : Check :=
  ⟨s!"input {path.text}",
    if files.exists? (workingDir / path) then none else some "does not exist"⟩

/-- All checks in order. -/
def all (place : Config.Place) (config : Config) (options : Options) (locator : Locator)
    (catalog : Catalog σ) : Act σ (List Check) := do
  let plugins ← (config.plugins.getD []).mapM (plugin locator catalog)
  let template ← template locator catalog options.templateName
  let files ← Act.files
  let inputs := options.files.map (input files locator.workingDir)
  return [Check.config place] ++ plugins ++ [template] ++ inputs

/-- What chooses checks by name: any of the patterns, or nothing if all are to be run. What is wrong
with a pattern is not told. -/
def chooser (patterns : Option (List String)) : Except Error (Option Pattern) :=
  match patterns.getD [] with
  | [] => .ok none
  | l =>
    match Pattern.ofText? ("|".intercalate l) with
    | some p => .ok (some p)
    | none => .error (.config "invalid --match pattern: ")

def chosen (pattern : Option Pattern) (c : Check) : Bool :=
  pattern.all (·.occursIn c.name.toList)

def failed (c : Check) : Bool := c.failure.isSome

def line (c : Check) : String :=
  match c.failure with
  | none => s!"  ok    {c.name}\n"
  | some reason => s!"  FAIL  {c.name}: {reason}\n"

/-- What is printed about checks. -/
def report (checks : List Check) : String :=
  "Running checks...\n" ++ String.join (checks.map line) ++
    s!"{checks.length} checks, {(checks.filter failed).length} failed\n"

end Check

end RefDoc
