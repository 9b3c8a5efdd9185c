import RefDoc.Extension.Catalog
import RefDoc.Extension.Location
import RefDoc.Toml.Document

/-!
# Finding and loading plugins

`dir/name` stands for the manifest `name.toml` in the directory `dir`. A manifest names an entry of
the catalog; a plugin of the catalog needs no manifest, but one that is there counts.
-/

namespace RefDoc

/-- A plugin that has been found. -/
structure ResolvedPlugin where
  specifier : String
  basename : String
  location : Location
  deriving DecidableEq, Repr, Inhabited

/-- The directory part of a specifier. -/
def Path.directoryName (p : Path) : String :=
  match p.parent? with
  | some above => if above.text.isEmpty then "." else above.text
  | none => "."

/-- The file in a directory that makes it hold a plugin of that name. -/
def pluginManifest (dir : Path) (basename : String) : Path := dir / ⟨s!"{basename}.toml"⟩

namespace ResolvedPlugin

variable {σ : Type}

/-- Finds a plugin. One without manifest that is not in the catalog is still found if its directory
is there. -/
def find? (files : FileTree) (locator : Locator) (catalog : Catalog σ) (specifier : String) :
    Option ResolvedPlugin := do
  let basename ← Path.fileName? ⟨specifier⟩
  let found := locator.findDirectory? files (Path.directoryName ⟨specifier⟩)
  let listed := found.filter fun dir => files.isFile (pluginManifest dir basename)
  let location ←
    match listed with
    | some dir => some (.directory dir)
    | none =>
      if catalog.plugins.contains specifier then some (.builtin specifier)
      else found.map .directory
  return { specifier, basename, location }

def unknownEvent (specifier : String) : Event :=
  .error s!"Unable to find the plugin \"{specifier}\""

/-- Finds plugins; those that cannot be found are logged and left out. -/
def findAll (files : FileTree) (locator : Locator) (catalog : Catalog σ)
    (specifiers : List String) : List ResolvedPlugin × List Event :=
  let found := specifiers.map fun s => (s, find? files locator catalog s)
  (found.filterMap (·.2),
    found.filterMap fun (s, p) => if p.isNone then some (unknownEvent s) else none)

/-- The entry of a plugin manifest, which must have one. -/
def entryOf? (manifest : String) : Option String := do
  let members ← Toml.ofText? manifest
  match members.lookup "entry" with
  | some (.string entry) => some entry
  | _ => none

/-- The name in the catalog that a plugin stands for. What is wrong with an invalid manifest is not
told further. -/
def entry (files : FileTree) (p : ResolvedPlugin) : Except String String :=
  match p.location with
  | .builtin name => .ok name
  | .directory dir =>
    let manifest := pluginManifest dir p.basename
    match files.readText manifest with
    | .error e => .error s!"cannot read {manifest.text}: {e.message}"
    | .ok text =>
      match entryOf? text with
      | some entry => .ok entry
      | none => .error s!"invalid manifest {manifest.text}: "

/-- What a plugin stands for: its entry, and what makes it in the catalog. -/
def implementation (files : FileTree) (catalog : Catalog σ) (p : ResolvedPlugin) :
    Except Error (String × Factory σ (Plugin σ)) := do
  let entry ← (p.entry files).mapError (.pluginLoad p.specifier)
  match catalog.plugins.get? entry with
  | some factory => .ok (entry, factory)
  | none => .error (.pluginLoad p.specifier s!"no plugin implementation named \"{entry}\"")

def load (catalog : Catalog σ) (p : ResolvedPlugin) : Attempt σ (LoadedPlugin σ) := do
  let (entry, factory) ← Attempt.ofExcept (p.implementation (← Attempt.files) catalog)
  let plugin ← Attempt.act factory.make
  Attempt.log (.debug "plugin loaded" [("plugin", p.specifier), ("entry", entry)])
  return { specifier := p.specifier, plugin }

/-- Loads plugins up to the first that cannot be loaded. -/
def loadAll (catalog : Catalog σ) (ps : List ResolvedPlugin) : Attempt σ (List (LoadedPlugin σ)) :=
  ps.mapM (load catalog)

end ResolvedPlugin

end RefDoc
