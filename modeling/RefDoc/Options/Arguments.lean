import RefDoc.Options.Basic
import RefDoc.Error

/-!
# Arguments

The command line. A switch may carry a value, in the same argument behind an equals sign or in the
next one; short switches may share an argument. A value that is a switch by its look is none, and
everything behind `--` is a file. Values are looked at when the next switch or the end is reached,
so an argument that is no switch at all is reported first.
-/

namespace RefDoc

/-- What a switch does to the options. -/
inductive Setting where
  | flag (set : Options → Options)
  | path (label : String) (set : Path → Options → Options)
  | text (label : String) (set : String → Options → Options)

structure Switch where
  short : Option Char
  long : String
  setting : Setting
  help : String
  repeatable : Bool := false

namespace Switch

def label? (s : Switch) : Option String :=
  match s.setting with
  | .flag _ => none
  | .path label _ | .text label _ => some label

def takesValue (s : Switch) : Bool := s.label?.isSome

/-- The switch as messages show it. -/
def shown (s : Switch) : String :=
  match s.label? with
  | none => s!"--{s.long}"
  | some label => s!"--{s.long} <{label}>"

def all : List Switch :=
  [⟨some 'c', "configure", .path "CONFIGURE" fun v o => { o with configure := some v },
      "The path to the configuration file. Default: <root>/conf.json", false⟩,
    ⟨some 'd', "destination", .path "DESTINATION" fun v o => { o with destination := some v },
      "The path to the output folder. Default: ./out/", false⟩,
    ⟨some 'e', "encoding", .text "ENCODING" fun v o => { o with encoding := some v },
      "Assume this encoding when reading all source files. Default: utf8", false⟩,
    ⟨none, "debug", .flag fun o => { o with debug := true },
      "Log information for debugging", false⟩,
    ⟨none, "verbose", .flag fun o => { o with verbose := true },
      "Log detailed information to the console", false⟩,
    ⟨none, "pedantic", .flag fun o => { o with pedantic := true },
      "Treat errors as fatal errors, and treat warnings as errors", false⟩,
    ⟨some 'h', "help", .flag fun o => { o with help := true },
      "Print this message and quit", false⟩,
    ⟨some 'T', "test", .flag fun o => { o with test := true },
      "Check the configuration, plugins and template, then quit", false⟩,
    ⟨some 'v', "version", .flag fun o => { o with version := true },
      "Display the version number and quit", false⟩,
    ⟨some 'X', "explain", .flag fun o => { o with explain := true },
      "Dump all found doclet internals to the console and quit", false⟩,
    ⟨some 'u', "tutorials", .path "TUTORIALS" fun v o => { o with tutorials := some v },
      "Directory in which to find tutorials", false⟩,
    ⟨some 't', "template", .text "TEMPLATE" fun v o => { o with template := some v },
      "The template to use. Default: templates/default", false⟩,
    ⟨some 'P', "package", .path "PACKAGE" fun v o => { o with package := some v },
      "The path to the package metadata file. Default: first package.json among the inputs",
      false⟩,
    ⟨some 'R', "readme", .path "README" fun v o => { o with readme := some v },
      "The path to the readme file. Default: first README.md among the inputs", false⟩,
    ⟨some 'r', "recurse", .flag fun o => { o with recurse := true },
      "Recurse into subdirectories when scanning for source files", false⟩,
    ⟨some 'm', "match", .text "MATCH_PATTERNS" fun v o =>
        { o with patterns := some (o.patterns.getD [] ++ [v]) },
      "When running self-checks, only run those whose name matches this regex", true⟩,
    ⟨none, "nocolor", .flag fun o => { o with nocolor := true },
      "Disable colored log output", false⟩]

def ofLong? (name : String) : Option Switch := all.find? (·.long = name)

def ofShort? (c : Char) : Option Switch := all.find? (·.short = some c)

end Switch

inductive ArgumentError where
  | unexpectedArgument (argument : String)
  | valueRequired (shown : String)
  | repeated (shown : String)
  | unexpectedValue (value shown : String)
  deriving DecidableEq, Repr

def ArgumentError.message : ArgumentError → String
  | unexpectedArgument argument => s!"error: unexpected argument '{argument}' found"
  | valueRequired shown => s!"error: a value is required for '{shown}' but none was supplied"
  | repeated shown => s!"error: the argument '{shown}' cannot be used multiple times"
  | unexpectedValue value shown =>
    s!"error: unexpected value '{value}' for '{shown}' found; no more were expected"

namespace Arguments

/-- What was read but not looked at yet. -/
inductive Pending where
  | nothing
  /-- A switch whose value is to come. -/
  | switch (s : Switch)
  | value (s : Switch) (value : String)
  | files (files : List String)

structure State where
  options : Options := {}
  used : List String := []
  pending : Pending := .nothing

abbrev Step := Except ArgumentError State

/-- Marks a switch as used. -/
def State.use (st : State) (s : Switch) : Step :=
  if s.long ∈ st.used ∧ !s.repeatable then .error (.repeated s.shown)
  else .ok { st with used := s.long :: st.used }

/-- Applies a switch with its value, or a flag, whose value does not matter. -/
def State.apply (st : State) (s : Switch) (value : String) : Step := do
  let st ← st.use s
  match s.setting with
  | .flag set => .ok { st with options := set st.options }
  | .path _ set =>
    if value.isEmpty then .error (.valueRequired s.shown)
    else .ok { st with options := set ⟨value⟩ st.options }
  | .text _ set => .ok { st with options := set value st.options }

/-- Looks at what is pending. -/
def State.flush (st : State) : Step :=
  let done := { st with pending := .nothing }
  match st.pending with
  | .nothing => .ok done
  | .switch s => .error (.valueRequired s.shown)
  | .value s v => done.apply s v
  | .files files =>
    if files.any (·.isEmpty) then .error (.valueRequired "[FILES]...")
    else
      let options := { st.options with files := st.options.files ++ files.map Path.mk }
      .ok { done with options }

/-- A switch that takes a value, with the value if it came in the same argument. -/
def State.valued (st : State) (s : Switch) : Option String → Step
  | some v => do (← st.flush).apply s v
  | none => do .ok { ← st.flush with pending := .switch s }

def State.file (st : State) (argument : String) : Step :=
  match st.pending with
  | .files files => .ok { st with pending := .files (files ++ [argument]) }
  | _ => do .ok { ← st.flush with pending := .files [argument] }

/-- An argument behind `--` at its start. -/
def State.longSwitch (st : State) (body : List Char) : Step :=
  let name := String.ofList (body.takeWhile (· ≠ '='))
  let value :=
    match body.dropWhile (· ≠ '=') with
    | [] => none
    | _ :: v => some (String.ofList v)
  match Switch.ofLong? name with
  | none => .error (.unexpectedArgument s!"--{name}")
  | some s =>
    if s.takesValue then st.valued s value
    else
      match value with
      | some v => .error (.unexpectedValue v s.shown)
      | none => do (← st.flush).apply s ""

/-- The short switches of one argument. -/
def State.shortSwitches (st : State) : List Char → Step
  | [] => .ok st
  | c :: rest =>
    match Switch.ofShort? c with
    | none => .error (.unexpectedArgument (String.ofList ['-', c]))
    | some s =>
      if s.takesValue then
        match rest with
        | [] => st.valued s none
        | '=' :: v => st.valued s (some (String.ofList v))
        | v => st.valued s (some (String.ofList v))
      else do ((← (← st.flush).apply s "").shortSwitches rest)

/-- Reads arguments; `onlyFiles` says that `--` was passed. -/
def readAll (onlyFiles : Bool) (st : State) : List String → Step
  | [] => st.flush
  | argument :: rest => do
    if onlyFiles then
      readAll true (← st.file argument) rest
    else
      match argument.toList with
      | ['-', '-'] => readAll true st rest
      | '-' :: '-' :: body => readAll false (← st.longSwitch body) rest
      | '-' :: c :: more => readAll false (← st.shortSwitches (c :: more)) rest
      | _ =>
        match st.pending with
        | .switch s => readAll false { st with pending := .value s argument } rest
        | _ => readAll false (← st.file argument) rest

end Arguments

namespace Options

def ofArguments (arguments : List String) : Except Error Options :=
  match Arguments.readAll false {} arguments with
  | .ok st => .ok st.options
  | .error e => .error (.badArguments e.message)

/-! ### Help -/

/-- A line of the list of switches, before the explanation. -/
def switchColumn (s : Switch) : String :=
  match s.short with
  | some c => String.ofList [' ', ' ', '-', c, ',', ' '] ++ s.shown
  | none => "      " ++ s.shown

def helpText : String :=
  let width := (Switch.all.map fun s => (switchColumn s).length).foldl max 0
  let row (s : Switch) : String :=
    let column := switchColumn s
    column ++ String.ofList (List.replicate (width - column.length + 2) ' ') ++ s.help
  "\n".intercalate
    (["Generate reference documentation from annotated source files.", "",
      "Usage: docweave [OPTIONS] <FILES>...", "",
      "Arguments:", "  [FILES]...  Files or directories to document", "", "Options:"] ++
      Switch.all.map row) ++ "\n"

def versionLine : String := "docweave 0.1.0"

end Options

end RefDoc
