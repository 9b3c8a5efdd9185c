import RefDoc.Doclet.Json
import RefDoc.Json.Printer
import RefDoc.Template.Basic

/-!
# The symbol tree

A template for other programs: `doclets.json` holds the symbols that are not private, each with its
members. Members are followed to a given depth, so that a circle of memberships ends.
-/

namespace RefDoc

open Json

structure SymbolTree where
  doclet : Doclet
  members : List SymbolTree
  deriving Repr

namespace SymbolTree

/-- How many members may stand below each other. -/
def depth : Nat := 16

/-- The members of a symbol and theirs, at most `depth` deep. -/
def under (all : Collection) : Nat → String → List SymbolTree
  | 0, _ => []
  | depth + 1, longname =>
    ((all.membersOf longname).filter (!·.isPrivate)).map fun d =>
      ⟨d, under all depth d.longname⟩

/-- The trees of the symbols that belong to no other. -/
def ofCollection (all : Collection) : List SymbolTree :=
  let top := all.doclets.filter fun d => d.kind != .package && d.memberOf.isNone && !d.isPrivate
  top.map fun d => ⟨d, under all depth d.longname⟩

mutual

def toJson : SymbolTree → Json
  | ⟨d, members⟩ =>
    .object
      ([("name", .string d.name), ("longname", .string d.longname), ("kind", d.kind.toJson)] ++
        ifSome "description" .string d.description ++
        ifSome "access" Access.toJson d.access ++
        ifAny "extends" .string d.augments ++
        ifTrue "inherited" d.inherited ++
        if members.isEmpty then [] else [("members", .array (jsonItems members))])

def jsonItems : List SymbolTree → List Json
  | [] => []
  | t :: rest => toJson t :: jsonItems rest

end

/-- The package, the symbols and the tutorials. -/
def document (all : Collection) (tutorials : TutorialTree) : Json :=
  .object
    (ifSome "package" Doclet.toJson (all.doclets.find? (·.kind == .package)) ++
      [("symbols", .array (jsonItems (ofCollection all)))] ++
      ifAny "tutorials" TutorialTree.toJson tutorials.children)

def template {σ : Type} : Template σ :=
  .ofPages "JSON" fun all _ tutorials => [⟨"doclets.json", (document all tutorials).pretty⟩]

end SymbolTree

end RefDoc
