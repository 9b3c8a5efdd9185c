import RefDoc.Hierarchy.Copies
import RefDoc.Report.Logged

/-!
# Mixins

What a symbol mixes in, it gets copies of. In a class a copy belongs to the instances; elsewhere it
keeps its scope.
-/

namespace RefDoc

/-- One declaration that a symbol mixes in another. -/
structure Mixing where
  target : String
  kind : Kind
  mixin : String
  deriving DecidableEq, Repr

namespace Mixing

def rule (m : Mixing) : CopyRule where
  scope d := if m.kind = .classType then .onInstance else d.scope.getD .static
  mark copy _ := { copy with mixed := true }

def event (m : Mixing) (copied : Nat) : Event :=
  .debug "mixed in members"
    [("target", m.target), ("mixin", m.mixin), ("copied", toString copied)]

end Mixing

namespace Collection

def mixings (c : Collection) : List Mixing :=
  c.doclets.flatMap fun d => d.mixes.map fun mixin => ⟨d.longname, d.kind, mixin⟩

def mixIn (c : Collection) (m : Mixing) : Collection := c.copyMembers m.rule m.mixin m.target

/-- Applies the declarations in the order they were made. -/
def addMixedIn (c : Collection) : Collection × List Event :=
  foldLogged mixIn (fun before after m => m.event (after.size - before.size)) c c.mixings

end Collection

end RefDoc
