import RefDoc.Config.Comments
import RefDoc.Options.Basic

/-!
# Configurations

What a configuration file says: which sources to take, which plugins to install, what to pass to the
parser, and the middle tier of the options. Any other section is kept for templates.
-/

namespace RefDoc

open Json

/-- Which paths are sources. -/
structure SourceRules where
  /-- Paths to scan after those of the command line. -/
  included : List Path := []
  /-- Paths that are left out with everything below them. -/
  excluded : List Path := []
  /-- The pattern a source must match. -/
  includePattern : Option String := none
  /-- The pattern a source must not match. -/
  excludePattern : Option String := none
  includeDotfiles : Bool := false
  deriving DecidableEq, Repr, Inhabited

namespace SourceRules

def toJson (r : SourceRules) : Json :=
  .object ([
      ("include", .array (r.included.map ofPath)),
      ("exclude", .array (r.excluded.map ofPath))] ++
    ifSome "includePattern" .string r.includePattern ++
    ifSome "excludePattern" .string r.excludePattern ++
    [("includeDotfiles", .bool r.includeDotfiles)])

def fields : List (RecordField SourceRules) :=
  [.of "include" .optional (readList readPath) fun v r => { r with included := v },
    .of "exclude" .optional (readList readPath) fun v r => { r with excluded := v },
    .of "includePattern" .optional (readOption readText) fun v r => { r with includePattern := v },
    .of "excludePattern" .optional (readOption readText) fun v r => { r with excludePattern := v },
    .of "includeDotfiles" .optional readBool fun v r => { r with includeDotfiles := v }]

def read : Tree → Decoded SourceRules := readRecord "SourceConfig" fields {}

/-- The rules of a configuration that has none: scripts, but none whose name or directory begins
with an underscore. -/
def standard : SourceRules :=
  { includePattern := some ".+\\.js(doc|x)?$"
    excludePattern := some "(^|\\/|\\\\)_" }

end SourceRules

structure Config where
  source : Option SourceRules := none
  plugins : Option (List String) := none
  /-- Handed to the parser as it is. -/
  parser : Option Json := none
  options : Option Options := none
  extra : Table Json := ∅
  deriving Inhabited

namespace Config

def members (c : Config) : List (String × Json) :=
  ifSome "source" SourceRules.toJson c.source ++
    ifSome "plugins" strings c.plugins ++
    ifSome "parser" id c.parser ++
    ifSome "opts" Options.toJson c.options ++
    c.extra.entries

def toJson (c : Config) : Json := .object c.members

def fields : List (RecordField Config) :=
  [.of "source" .optional (readOption SourceRules.read) fun v c => { c with source := v },
    .of "plugins" .optional (readOption (readList readText)) fun v c => { c with plugins := v },
    .of "parser" .optional (readOption readJson) fun v c => { c with parser := v },
    .of "opts" .optional (readOption Options.read) fun v c => { c with options := v }]

def read : Tree → Decoded Config :=
  readOpenRecord "ConfigFile" fields (fun key v c => { c with extra := c.extra.insert key v }) {}

/-- Reads the text of a configuration, which may carry comments. -/
def ofText (text : String) : Decoded Config := decodeText read (blankComments text)

/-- The configuration of a run without a configuration file. -/
def standard : Config :=
  { source := some .standard
    plugins := some []
    extra := .ofList
      [("tags", .object [("allowUnknownTags", .bool true)]),
        ("templates", .object [("cleverLinks", .bool false), ("monospaceLinks", .bool false)])] }

end Config

end RefDoc
