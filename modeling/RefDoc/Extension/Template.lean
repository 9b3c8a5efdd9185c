import RefDoc.Extension.Catalog
import RefDoc.Extension.Location
import RefDoc.Toml.Document

/-!
# Finding and loading templates

A template is a directory with a manifest that names an entry of the catalog, or an entry of the
catalog itself. A specifier that leads nowhere is kept as a directory, so that loading it names what
was asked for.
-/

namespace RefDoc

namespace Template

variable {σ : Type}

def manifestName : String := "publish.toml"

def find (files : FileTree) (locator : Locator) (catalog : Catalog σ) (specifier : String) :
    Location :=
  let found := locator.findDirectory? files specifier
  match found.filter fun dir => files.isFile (dir / ⟨manifestName⟩) with
  | some dir => .directory dir
  | none =>
    if catalog.templates.contains specifier then .builtin specifier
    else .directory (found.getD ⟨specifier⟩)

/-- The entry of a template manifest, which may have none; nothing if the manifest is at fault. -/
def entryOf? (manifest : String) : Option (Option String) := do
  let members ← Toml.ofText? manifest
  match members.lookup "publish" with
  | some (.string entry) => some (some entry)
  | some _ => none
  | none => some none

/-- The name in the catalog that a template stands for. What is wrong with an invalid manifest is not
told further. -/
def entry (files : FileTree) : Location → Except Error String
  | .builtin name => .ok name
  | .directory dir =>
    match files.readText (dir / ⟨manifestName⟩) with
    | .error e => .error (.templateLoad dir.text s!"cannot read {manifestName}: {e.message}")
    | .ok text =>
      match entryOf? text with
      | some (some entry) => .ok entry
      | some none => .error (.noEntryPoint dir.text)
      | none => .error (.templateLoad dir.text s!"invalid {manifestName}: ")

/-- What a template stands for: its entry, and what makes it in the catalog. -/
def implementation (files : FileTree) (catalog : Catalog σ) (location : Location) :
    Except Error (String × Factory σ (Template σ)) := do
  let entry ← entry files location
  match catalog.templates.get? entry with
  | some factory => .ok (entry, factory)
  | none => .error (.noEntryPoint location.text)

def load (catalog : Catalog σ) (location : Location) : Attempt σ (Template σ) := do
  let (entry, factory) ←
    Attempt.ofExcept (implementation (← Attempt.files) catalog location)
  let template ← Attempt.act factory.make
  Attempt.log (.debug "template loaded" [("template", location.text), ("name", entry)])
  return template

end Template

end RefDoc
