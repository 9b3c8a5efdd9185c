import RefDoc.Doclet.Collection

/-!
# Copied members

A symbol gets the members of another by copying them. An own member, or a copy made before, is never
replaced: a copy is made only if the target has no member of that name and scope.
-/

namespace RefDoc

/-- How copies are made: the scope a copy gets, and what else is noted on it. -/
structure CopyRule where
  scope : Doclet → Scope
  /-- Marks a copy, given the member it was copied from. -/
  mark : Doclet → Doclet → Doclet

namespace CopyRule

def copy (rule : CopyRule) (target : String) (m : Doclet) : Doclet :=
  rule.mark (m.setMemberOf target (rule.scope m)) m

end CopyRule

namespace Collection

def hasMember (c : Collection) (parent name : String) (scope : Option Scope) : Bool :=
  (c.membersOf parent).any fun m => m.name == name && m.scope == scope

/-- The members that others may get: all but the inner ones. -/
def sharedMembers (c : Collection) (parent : String) : List Doclet :=
  (c.membersOf parent).filter (·.scope != some .inner)

def addCopy (rule : CopyRule) (target : String) (c : Collection) (m : Doclet) : Collection :=
  if c.hasMember target m.name (some (rule.scope m)) then c else c.push (rule.copy target m)

/-- Copies the members that `source` shares to `target`. -/
def copyMembers (c : Collection) (rule : CopyRule) (source target : String) : Collection :=
  (c.sharedMembers source).foldl (addCopy rule target) c

end Collection

end RefDoc
