import RefDoc.Json.Printer
import RefDoc.Run.Job
import RefDoc.Source.Inputs

/-!
# Sessions

For a program that wants the doclets and nothing else. The options are those given over the
defaults; the configuration has no say in them. Without source rules the files are parsed as they
are given. The parse ends where the parser's own check stops it.
-/

namespace RefDoc

structure Session (σ : Type) where
  workingDir : Path
  config : Config
  options : Options
  catalog : Catalog σ := .builtin
  installedDir : Option Path := none

namespace Session

variable {σ : Type}

/-- The options in force. -/
def effective (s : Session σ) : Options := s.options.merge none

def inputRequest (s : Session σ) : InputRequest :=
  { positional := s.effective.files
    rules := s.config.source
    package := s.effective.package
    readme := s.effective.readme
    recurse := s.effective.recurse
    workingDir := s.workingDir }

def doclets (s : Session σ) : Attempt σ Collection := do
  let inputs ← Inputs.load s.inputRequest
  let files :=
    if s.config.source.isSome then inputs.files else inputs.candidates.map s.workingDir.join
  let job : ParseJob σ :=
    { config := s.config
      options := s.effective
      package := inputs.package
      locator :=
        { workingDir := s.workingDir, installedDir := s.installedDir, root := s.workingDir }
      catalog := s.catalog }
  let parser ← job.parser
  let (_, doclets) ← Attempt.act ((job.parse (.recording parser.stop) parser files).run' {})
  Attempt.act (ParseJob.postProcess .standard parser doclets)

/-- The doclets as text. -/
def dump (s : Session σ) : Attempt σ String := do
  return (Json.array ((← s.doclets).doclets.map Doclet.toJson)).pretty

end Session

end RefDoc
