import RefDoc.Desk
import RefDoc.Doclet.Collection
import RefDoc.Options.Basic
import RefDoc.Tutorial.Basic

/-!
# Templates

A template turns doclets and tutorials into pages and writes them to the destination. A page is
first written beside its place and then moved there, so that a file is never half a page.
-/

namespace RefDoc

/-- One file of the output. -/
structure Page where
  file : String
  text : String
  deriving DecidableEq, Repr, Inhabited

structure Template (σ : Type) where
  publish : Collection → Options → TutorialTree → Attempt σ Unit

def Options.outputDir (o : Options) : Path := o.destination.getD defaultDestination

namespace Page

/-- Where the page goes. -/
def target (p : Page) (dir : Path) : Path := dir / ⟨p.file⟩

/-- Where the page is written first. -/
def draft (p : Page) (dir : Path) : Path := (p.target dir).withFileName s!".{p.file}.tmp"

variable {σ : Type}

def write (dir : Path) (p : Page) : Attempt σ Unit := do
  let target := p.target dir
  let draft := p.draft dir
  Attempt.changeFiles draft (·.writeText draft p.text)
  Attempt.changeFiles target (·.rename draft target)
  Attempt.log <| .debug "wrote output file"
    [("file", target.text), ("size", toString p.text.utf8ByteSize)]

end Page

namespace Template

variable {σ : Type}

/-- A template whose pages follow from the doclets and tutorials alone. `label` says what has been
written. -/
def ofPages (label : String) (pages : Collection → Options → TutorialTree → List Page) :
    Template σ where
  publish doclets options tutorials := do
    let dir := options.outputDir
    Attempt.tryFiles dir (·.tryDirectories dir)
    (pages doclets options tutorials).forM (Page.write dir)
    Attempt.log (.info s!"{label} documentation written" [("path", dir.text)])

end Template

end RefDoc
