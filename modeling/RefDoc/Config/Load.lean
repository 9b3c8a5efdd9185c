import RefDoc.Config.Basic
import RefDoc.Desk

/-!
# Finding the configuration

A configuration file named by the user is always taken, so that one that is missing is an error that
names it. Otherwise the installation root may hold one; if it holds none, the standard configuration
applies.
-/

namespace RefDoc.Config

inductive Place where
  | file (path : Path)
  | standard
  deriving DecidableEq, Repr

/-- The files of the installation root that may hold the configuration, in order. -/
def fileNames : List String := ["conf.json", "conf.json.EXAMPLE"]

def find (files : FileTree) (root : Path) : Option Path → Place
  | some path => .file path
  | none =>
    match (fileNames.map fun name => root / ⟨name⟩).find? files.isFile with
    | some path => .file path
    | none => .standard

/-- Reads a configuration file. -/
def ofFile (files : FileTree) (path : Path) : Except Error Config :=
  let fail (reason : String) : Error :=
    .config s!"Cannot parse the config file {path.text}: {reason}"
  match files.readText path with
  | .error e => .error (fail e.message)
  | .ok text => (ofText text).mapError fun e => fail e.message

def standardRulesEvent (path : Path) : Event :=
  .debug "config has no source section, using the built-in one" [("path", path.text)]

variable {σ : Type}

/-- A configuration file without source rules gets the standard ones. -/
def load : Place → Attempt σ Config
  | .standard => do
    Attempt.log (.debug "no config file found, using built-in defaults")
    return standard
  | .file path => do
    let config ← Attempt.ofExcept (ofFile (← Attempt.files) path)
    if config.source.isSome then return config
    Attempt.log (standardRulesEvent path)
    return { config with source := some .standard }

end RefDoc.Config
