import RefDoc.Desk
import RefDoc.Hierarchy.Borrowed
import RefDoc.Hierarchy.Inheritance
import RefDoc.Hierarchy.Interface
import RefDoc.Hierarchy.Mixin

/-!
# Passes

What is done to the doclets between parsing and publishing, in three passes: the index is rebuilt,
members are added from mixins, ancestors and interfaces, and borrows are resolved.
-/

namespace RefDoc

namespace Collection

/-- Adds the members that come from mixins and ancestors, and notes what implements an interface. -/
def augment (c : Collection) : Collection × List Event :=
  let (mixed, mixLog) := c.addMixedIn
  let (inherited, inheritLog) := mixed.addInherited
  (inherited.addImplemented.reindex, mixLog ++ inheritLog)

end Collection

structure PostProcessor (σ : Type) where
  index : Collection → Act σ Collection
  augment : Collection → Act σ Collection
  resolveBorrows : Collection → Act σ Collection

namespace PostProcessor

variable {σ : Type}

/-- A pass that logs what it did. -/
def logged (pass : Collection → Collection × List Event) (c : Collection) : Act σ Collection := do
  let (result, log) := pass c
  Act.logAll log
  return result

def standard : PostProcessor σ where
  index := logged fun c => (c.reindex, [.debug "indexed doclets"])
  augment := logged Collection.augment
  resolveBorrows := logged Collection.resolveBorrows

def run (p : PostProcessor σ) (c : Collection) : Act σ Collection := do
  p.resolveBorrows (← p.augment (← p.index c))

end PostProcessor

end RefDoc
