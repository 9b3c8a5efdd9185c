import RefDoc.Json.Encode

/-!
# Run options

Options come in tiers: the command line, the configuration file, and the defaults. A valued option
takes the first tier that has one, a flag is set if any tier sets it, and the positional files only
ever come from the first tier.
-/

namespace RefDoc

structure Options where
  files : List Path := []
  configure : Option Path := none
  destination : Option Path := none
  encoding : Option String := none
  debug : Bool := false
  verbose : Bool := false
  pedantic : Bool := false
  help : Bool := false
  test : Bool := false
  version : Bool := false
  explain : Bool := false
  recurse : Bool := false
  nocolor : Bool := false
  tutorials : Option Path := none
  template : Option String := none
  package : Option Path := none
  readme : Option Path := none
  /-- Patterns for the names of the self-checks to run. -/
  patterns : Option (List String) := none
  /-- The rendered readme; never written or read. -/
  readmeHtml : Option String := none
  /-- Everything else, for templates. -/
  extra : Table Json := ∅
  deriving Inhabited

namespace Options

def defaultDestination : Path := ⟨"./out/"⟩

def defaultEncoding : String := "utf8"

def defaultTemplate : String := "templates/default"

/-- The lowest tier. -/
def defaults : Options :=
  { destination := some defaultDestination
    encoding := some defaultEncoding
    template := some defaultTemplate }

/-- Fills what is not set from a lower tier. -/
def orElse (o lower : Options) : Options where
  files := o.files
  configure := o.configure.or lower.configure
  destination := o.destination.or lower.destination
  encoding := o.encoding.or lower.encoding
  debug := o.debug || lower.debug
  verbose := o.verbose || lower.verbose
  pedantic := o.pedantic || lower.pedantic
  help := o.help || lower.help
  test := o.test || lower.test
  version := o.version || lower.version
  explain := o.explain || lower.explain
  recurse := o.recurse || lower.recurse
  nocolor := o.nocolor || lower.nocolor
  tutorials := o.tutorials.or lower.tutorials
  template := o.template.or lower.template
  package := o.package.or lower.package
  readme := o.readme.or lower.readme
  patterns := o.patterns.or lower.patterns
  readmeHtml := o.readmeHtml.or lower.readmeHtml
  extra := o.extra.union lower.extra

/-- The command line over the configuration over the defaults. -/
def merge (cli : Options) (config : Option Options) : Options :=
  (cli.orElse (config.getD {})).orElse defaults

def templateName (o : Options) : String := o.template.getD defaultTemplate

def encodingName (o : Options) : String := o.encoding.getD defaultEncoding

/-! ### JSON -/

open Json

def members (o : Options) : List (String × Json) :=
  ifAny "_" ofPath o.files ++
    ifSome "configure" ofPath o.configure ++
    ifSome "destination" ofPath o.destination ++
    ifSome "encoding" .string o.encoding ++
    [("debug", .bool o.debug), ("verbose", .bool o.verbose), ("pedantic", .bool o.pedantic),
      ("help", .bool o.help), ("test", .bool o.test), ("version", .bool o.version),
      ("explain", .bool o.explain), ("recurse", .bool o.recurse), ("nocolor", .bool o.nocolor)] ++
    ifSome "tutorials" ofPath o.tutorials ++
    ifSome "template" .string o.template ++
    ifSome "package" ofPath o.package ++
    ifSome "readme" ofPath o.readme ++
    ifSome "match" strings o.patterns ++
    o.extra.entries

def toJson (o : Options) : Json := .object o.members

/-- A string or a list of strings. -/
def readPatterns (t : Tree) : Decoded (Option (List String)) := do
  let unmatched : DecodeError :=
    ⟨"data did not match any variant of untagged enum OneOrMany", none⟩
  match ← t.raw with
  | .null => return none
  | .string s => return some [s]
  | v =>
    match readList readText (.ofJson v) with
    | .ok l => return some l
    | .error _ => .error unmatched

def fields : List (RecordField Options) :=
  [.of "_" .optional (readList readPath) fun v o => { o with files := v },
    .of "configure" .optional (readOption readPath) fun v o => { o with configure := v },
    .of "destination" .optional (readOption readPath) fun v o => { o with destination := v },
    .of "encoding" .optional (readOption readText) fun v o => { o with encoding := v },
    .of "debug" .optional readBool fun v o => { o with debug := v },
    .of "verbose" .optional readBool fun v o => { o with verbose := v },
    .of "pedantic" .optional readBool fun v o => { o with pedantic := v },
    .of "help" .optional readBool fun v o => { o with help := v },
    .of "test" .optional readBool fun v o => { o with test := v },
    .of "version" .optional readBool fun v o => { o with version := v },
    .of "explain" .optional readBool fun v o => { o with explain := v },
    .of "recurse" .optional readBool fun v o => { o with recurse := v },
    .of "nocolor" .optional readBool fun v o => { o with nocolor := v },
    .of "tutorials" .optional (readOption readPath) fun v o => { o with tutorials := v },
    .of "template" .optional (readOption readText) fun v o => { o with template := v },
    .of "package" .optional (readOption readPath) fun v o => { o with package := v },
    .of "readme" .optional (readOption readPath) fun v o => { o with readme := v },
    .of "match" .optional readPatterns fun v o => { o with patterns := v }]

def read : Tree → Decoded Options :=
  readOpenRecord "RunOptions" fields (fun key v o => { o with extra := o.extra.insert key v }) {}

end Options

end RefDoc
