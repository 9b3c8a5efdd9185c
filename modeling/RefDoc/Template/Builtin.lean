import RefDoc.Template.Site
import RefDoc.Template.SymbolTree

/-!
# Built-in templates

The site is what a run writes unless told otherwise.
-/

namespace RefDoc.Template

def builtin {σ : Type} : Table (Template σ) :=
  .ofList [("templates/default", Site.template), ("templates/haruki", SymbolTree.template)]

end RefDoc.Template
