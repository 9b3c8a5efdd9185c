import RefDoc.Config.Basic
import RefDoc.Extension.Plugin
import RefDoc.Hierarchy.Passes

/-!
# Parse jobs

What every way of running does with the sources: a parser is made with the plugins of the
configuration, the sources and the package become doclets, and the doclets go through the passes.
-/

namespace RefDoc

structure ParseJob (σ : Type) where
  config : Config
  options : Options
  /-- What is known about the package. -/
  package : Option Json
  locator : Locator
  catalog : Catalog σ

namespace ParseJob

variable {σ : Type}

/-- A parser with the plugins of the configuration. -/
def parser (j : ParseJob σ) : Attempt σ (Parser σ) := do
  let blank : Parser σ := { config := j.config.parser }
  let parser ←
    match j.config.plugins with
    | none => pure blank
    | some specifiers => do
      let (found, log) :=
        ResolvedPlugin.findAll (← Attempt.files) j.locator j.catalog specifiers
      Attempt.act (Act.logAll log)
      let plugins ← ResolvedPlugin.loadAll j.catalog found
      Attempt.act (blank.installAll plugins)
  return { parser with standard := true }

/-- The doclets of the files, the package being the last; the files are given as the parser left
them. -/
def parse {m : Type → Type} [Monad m] (j : ParseJob σ) (w : Watch σ m) (parser : Parser σ)
    (files : List Path) : m (List Path × Collection) := do
  let encoding ← w.act (Encoding.ofName j.options.encodingName)
  let (files, doclets) ← parser.parseWatched w files encoding
  return (files, doclets.push (.ofPackage j.package files))

/-- Sends doclets through the passes and tells the listener. -/
def postProcess (post : PostProcessor σ) (parser : Parser σ) (doclets : Collection) :
    Act σ Collection := do
  Act.log (.debug "Indexing doclets...")
  let doclets ← post.index doclets
  Act.log (.debug "Adding inherited symbols, mixins, and interface implementations...")
  let doclets ← post.augment doclets
  Act.log (.debug "Adding borrowed doclets...")
  let doclets ← post.resolveBorrows doclets
  Act.log (.debug "Post-processing complete.")
  parser.fireProcessingComplete doclets
  return doclets

end ParseJob

end RefDoc
