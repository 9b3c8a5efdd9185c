import RefDoc.Comment.Block
import RefDoc.Comment.Tags
import RefDoc.Parser.Event

/-!
# The parser

Turns source files into doclets and fires events on the way. A file that cannot be read is logged
and skipped; before each file the stop check may end the parse.
-/

namespace RefDoc

inductive Encoding where
  | utf8
  | latin1
  deriving DecidableEq, Repr, Inhabited

namespace Encoding

def name : Encoding → String
  | utf8 => "Utf8"
  | latin1 => "Latin1"

def ofLowerName? : String → Option Encoding
  | "utf8" | "utf-8" => some utf8
  | "latin1" | "latin-1" | "iso-8859-1" | "binary" => some latin1
  | _ => none

/-- The encoding of that name; an unknown name means UTF-8 and is logged. -/
def ofName {σ : Type} (name : String) : Act σ Encoding := do
  let lower := String.ofList (name.toList.map Text.asciiLower)
  match ofLowerName? lower with
  | some e => return e
  | none =>
    Act.log (.warn "unsupported encoding, reading sources as utf8" [("encoding", lower)])
    return utf8

def decode : Encoding → Text.Bytes → Except Text.Utf8Fault String
  | utf8, bytes => Text.decodeUtf8 bytes
  | latin1, bytes => .ok (Text.decodeLatin1 bytes)

end Encoding

/-- What a parse has done so far. -/
structure ParseHistory where
  /-- The files parsed, each with its number in the list of all files. -/
  parsed : List (Path × Nat) := []

/-- What a parse gives. -/
structure ParseResult where
  /-- The files as the handler of the first event left them. -/
  files : List Path
  doclets : Collection
  /-- The files parsed, each with its number in the list. -/
  parsed : List (Path × Nat)

/-- How the actions of a parse are carried out, and who is told of the files. -/
structure Watch (σ : Type) (m : Type → Type) where
  act : {α : Type} → Act σ α → m α
  /-- Whether to stop before the next file. -/
  stop : m Bool
  /-- A file is taken up. -/
  opened : Path → m Unit
  /-- A file has been parsed; its number, and how many there are. -/
  parsed : Path → Nat → Nat → m Unit

namespace Watch

variable {σ : Type}

/-- Takes down what has been parsed, and may stop because of it or of what is on the desk. -/
def recording (stop : ParseHistory → Desk σ → Bool) : Watch σ (StateT ParseHistory (Act σ)) where
  act a := StateT.lift a
  stop := do StateT.lift (Act.look (stop (← get)))
  opened _ := pure ()
  parsed file i _ := modify fun past => { parsed := past.parsed ++ [(file, i)] }

end Watch

structure Parser (σ : Type) where
  handlers : Handlers σ := {}
  /-- Whether comments become doclets. -/
  standard : Bool := false
  /-- The parser section of the configuration, which nothing here reads. -/
  config : Option Json := none
  /-- Whether to stop before the next file, when nobody else watches the parse. -/
  stop : ParseHistory → Desk σ → Bool := fun _ _ => false

namespace Parser

variable {σ : Type}

/-- Registers a handler in place of an earlier one for the same event. -/
def on (p : Parser σ) (h : Handler σ) : Act σ (Parser σ) := do
  if p.handlers.has h.kind then
    Act.log (.debug "replacing earlier event handler" [("event", h.kind.name)])
  return { p with handlers := p.handlers.set h }

def fireParseBegin (p : Parser σ) (files : List Path) : Act σ (List Path) :=
  match p.handlers.parseBegin with
  | some run => run files
  | none => pure files

def fireFileBegin (p : Parser σ) (file : Path) : Act σ Unit :=
  match p.handlers.fileBegin with
  | some run => run file
  | none => pure ()

def fireCommentFound (p : Parser σ) (comment : String) (file : Path) (line : Nat) :
    Act σ String :=
  match p.handlers.commentFound with
  | some run => run comment file line
  | none => pure comment

def fireNewDoclet (p : Parser σ) (d : Doclet) : Act σ Doclet :=
  match p.handlers.newDoclet with
  | some run => run d
  | none => pure d

def fireFileComplete (p : Parser σ) (file : Path) : Act σ Unit :=
  match p.handlers.fileComplete with
  | some run => run file
  | none => pure ()

def fireParseComplete (p : Parser σ) (files : List Path) (doclets : Collection) : Act σ Unit :=
  match p.handlers.parseComplete with
  | some run => run files doclets
  | none => pure ()

def fireProcessingComplete (p : Parser σ) (doclets : Collection) : Act σ Unit :=
  match p.handlers.processingComplete with
  | some run => run doclets
  | none => pure ()

/-- The doclet of a comment as it stands now, with the place it was found. -/
def docletAt? (comment : String) (file : Path) (b : Comment.Block) : Option Doclet :=
  (Comment.docletOf? comment.toList b.next).map fun d =>
    { d with origin := some ⟨file, file.fileName?.getD "", b.line⟩ }

/-- One comment of a file: its event, and the doclet it makes. -/
def parseBlock (p : Parser σ) (file : Path) (doclets : Collection) (b : Comment.Block) :
    Act σ Collection := do
  let comment ← p.fireCommentFound (String.ofList b.text) file b.line
  if !p.standard then return doclets
  match docletAt? comment file b with
  | none => return doclets
  | some d => return doclets.push (← p.fireNewDoclet d)

/-- Adds the doclets of one file's text. -/
def parseSource (p : Parser σ) (file : Path) (source : String) (doclets : Collection) :
    Act σ Collection := do
  p.fireFileBegin file
  let doclets ← (Comment.blocks source.toList).foldlM (p.parseBlock file) doclets
  p.fireFileComplete file
  return doclets

/-- The text of a file, or the log event that says why there is none. -/
def readSource (tree : FileTree) (encoding : Encoding) (file : Path) : Except Event String :=
  match tree.readBytes file with
  | .error e =>
    .error (.error "unable to read source file" [("path", file.text), ("error", e.message)])
  | .ok bytes =>
    match encoding.decode bytes with
    | .ok text => .ok text
    | .error e =>
      .error (.error "source file is not valid for the configured encoding"
        [("path", file.text), ("error", e.message)])

/-- Adds the doclets of a file; a file that cannot be read is logged and has none. -/
def parseFile (p : Parser σ) (encoding : Encoding) (file : Path) (doclets : Collection) :
    Act σ (Option Collection) := do
  match readSource (← Act.files) encoding file with
  | .error e =>
    Act.log e
    return none
  | .ok source => return some (← p.parseSource file source doclets)

def stoppedEvent (skipped : Nat) : Event :=
  .debug "parsing stopped" [("skipped", toString skipped)]

variable {m : Type → Type} [Monad m]

/-- Parses files, the first of which has number `i + 1` of `total`. The result says whether the end
was reached. -/
def parseFrom (p : Parser σ) (w : Watch σ m) (encoding : Encoding) (total i : Nat)
    (doclets : Collection) : List Path → m (Collection × Bool)
  | [] => return (doclets, true)
  | file :: rest => do
    if ← w.stop then
      w.act (Act.log (stoppedEvent (rest.length + 1)))
      return (doclets, false)
    w.opened file
    match ← w.act (p.parseFile encoding file doclets) with
    | none => parseFrom p w encoding total (i + 1) doclets rest
    | some doclets =>
      w.parsed file (i + 1) total
      parseFrom p w encoding total (i + 1) doclets rest

/-- Closes a parse that was not stopped. -/
def complete (p : Parser σ) (files : List Path) (doclets : Collection) : Act σ Unit := do
  p.fireParseComplete files doclets
  Act.log (.debug "parse complete" [("doclets", toString doclets.size)])

/-- Parses all files, and gives them as the handler of the first event left them. -/
def parseWatched (p : Parser σ) (w : Watch σ m) (files : List Path) (encoding : Encoding) :
    m (List Path × Collection) := do
  let files ← w.act (p.fireParseBegin files)
  let (doclets, ended) ← p.parseFrom w encoding files.length 0 .empty files
  if ended then w.act (p.complete files doclets)
  return (files, doclets)

/-- Parses all files, unless the parser stops before. -/
def parse (p : Parser σ) (files : List Path) (encoding : Encoding) : Act σ ParseResult := do
  let ((files, doclets), past) ← (p.parseWatched (.recording p.stop) files encoding).run {}
  return { files, doclets, parsed := past.parsed }

end Parser

end RefDoc
