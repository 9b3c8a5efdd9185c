import RefDoc.Hierarchy.Copies
import RefDoc.Report.Logged

/-!
# Inheritance

A symbol that augments others inherits their members. Parents come before their children, so that a
child also gets what its parents inherit. The order is found depth first, by name; whoever meets a
symbol that is still being visited has found a circle, and is left out with all that led to it.
-/

namespace RefDoc

/-- The parents of every symbol that has any. -/
abbrev Ancestry := Table (List String)

namespace Ancestry

/-- The last doclet of a longname says what its parents are. -/
def ofDoclets (ds : List Doclet) : Ancestry :=
  .ofList ((ds.filter (!·.augments.isEmpty)).map fun d => (d.longname, d.augments))

/-- A visit so far: who was visited, the order found, and where circles were met. -/
structure Visit where
  done : List String := []
  order : List (String × List String) := []
  circular : List String := []
  deriving DecidableEq, Repr, Inhabited

mutual

/-- Visits a symbol; `path` leads to it. The result says whether no circle was met. -/
def visit (a : Ancestry) (path : List String) (name : String) (v : Visit) : Visit × Bool :=
  if name ∈ v.done then (v, true)
  else
    match _known : a.get? name with
    | none => (v, true)
    | some parents =>
      if _fresh : name ∈ path then ({ v with circular := v.circular ++ [name] }, false)
      else
        let (v, acyclic) := a.visitAll (name :: path) parents v
        let order := if acyclic then v.order ++ [(name, parents)] else v.order
        ({ v with done := name :: v.done, order }, acyclic)
termination_by (a.sizeWithout path, 0)
decreasing_by exact .left _ _ (Table.sizeWithout_cons_lt (Table.mem_keys_of_get? _known) _fresh)

/-- Visits every one of `names`, also behind one that has met a circle. -/
def visitAll (a : Ancestry) (path : List String) (names : List String) (v : Visit) :
    Visit × Bool :=
  match names with
  | [] => (v, true)
  | name :: rest =>
    let (v, ok) := a.visit path name v
    let (v, others) := a.visitAll path rest v
    (v, ok && others)
termination_by (a.sizeWithout path, names.length + 1)

end

def visited (a : Ancestry) : Visit := (a.visitAll [] a.keys {}).1

end Ancestry

namespace Collection

def ancestry (c : Collection) : Ancestry := .ofDoclets c.doclets

/-- Symbols with their parents, the parents first. -/
def inheritanceOrder (c : Collection) : List (String × List String) := c.ancestry.visited.order

/-- An inherited member is a member of the instances unless it has a scope. -/
def inheritance : CopyRule where
  scope m := m.scope.getD .onInstance
  mark copy m := { copy with inherited := true, inherits := some m.longname, mixed := false }

/-- One child and one parent. -/
abbrev Descent := String × String

def descents (c : Collection) : List Descent :=
  c.inheritanceOrder.flatMap fun (child, parents) => parents.map fun parent => (child, parent)

def inherit (c : Collection) (d : Descent) : Collection := c.copyMembers inheritance d.2 d.1

def circularEvent (name : String) : Event :=
  .warn "circular inheritance, skipping" [("doclet", name)]

def inheritedEvent (d : Descent) (copied : Nat) : Event :=
  .debug "inherited members" [("child", d.1), ("parent", d.2), ("copied", toString copied)]

def addInherited (c : Collection) : Collection × List Event :=
  let (result, log) :=
    foldLogged inherit (fun before after d => inheritedEvent d (after.size - before.size)) c
      c.descents
  (result, c.ancestry.visited.circular.map circularEvent ++ log)

end Collection

end RefDoc
