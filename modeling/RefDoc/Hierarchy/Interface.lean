import RefDoc.Doclet.Collection

/-!
# Interfaces

A member of a class that has the name of a member of an interface the class implements is noted as
its implementation, and takes its description if it has none of its own.
-/

namespace RefDoc

namespace Doclet

/-- The doclet as an implementation of `m`. -/
def implementing (d m : Doclet) : Doclet :=
  { d with
    description := d.description.or m.description
    implements := if m.longname ∈ d.implements then d.implements else d.implements ++ [m.longname] }

end Doclet

namespace Collection

/-- Every class with every interface that it implements. -/
def implementations (c : Collection) : List (String × String) :=
  (c.doclets.filter (·.kind == .classType)).flatMap fun d =>
    d.implements.map fun interface => (d.longname, interface)

def implementMember (owner : String) (c : Collection) (m : Doclet) : Collection :=
  c.mapDoclets fun d =>
    if d.memberOf == some owner && d.name == m.name then d.implementing m else d

def implement (c : Collection) (i : String × String) : Collection :=
  (c.membersOf i.2).foldl (implementMember i.1) c

def addImplemented (c : Collection) : Collection := c.implementations.foldl implement c

end Collection

end RefDoc
