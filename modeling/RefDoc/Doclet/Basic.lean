import RefDoc.Json.Basic
import RefDoc.Path

/-!
# Doclets

A doclet describes one documented symbol. Its longname is its name, or the longname of the symbol
it belongs to, a separator that tells how it belongs, and its name.
-/

namespace RefDoc

inductive Kind where
  | classType
  | constant
  | event
  | function
  | interface
  | member
  | mixin
  | moduleUnit
  | namespaceUnit
  | package
  | typedef
  deriving DecidableEq, Repr, Inhabited

namespace Kind

def name : Kind → String
  | classType => "class"
  | constant => "constant"
  | event => "event"
  | function => "function"
  | interface => "interface"
  | member => "member"
  | mixin => "mixin"
  | moduleUnit => "module"
  | namespaceUnit => "namespace"
  | package => "package"
  | typedef => "typedef"

def all : List Kind :=
  [classType, constant, event, function, interface, member, mixin, moduleUnit, namespaceUnit,
    package, typedef]

/-- The name of a kind as log events show it. -/
def label : Kind → String
  | classType => "Class"
  | constant => "Constant"
  | event => "Event"
  | function => "Function"
  | interface => "Interface"
  | member => "Member"
  | mixin => "Mixin"
  | moduleUnit => "Module"
  | namespaceUnit => "Namespace"
  | package => "Package"
  | typedef => "Typedef"

/-- The kind a tag in a comment names. No tag names a package. -/
def ofTag? : String → Option Kind
  | "class" | "constructor" => some classType
  | "constant" | "const" => some constant
  | "event" => some event
  | "function" | "func" | "method" => some function
  | "interface" => some interface
  | "member" | "var" => some member
  | "mixin" => some mixin
  | "module" => some moduleUnit
  | "namespace" => some namespaceUnit
  | "typedef" => some typedef
  | _ => none

end Kind

/-- How a member relates to the symbol it belongs to. -/
inductive Scope where
  | global
  | inner
  | onInstance
  | static
  deriving DecidableEq, Repr, Inhabited

namespace Scope

def name : Scope → String
  | global => "global"
  | inner => "inner"
  | onInstance => "instance"
  | static => "static"

def all : List Scope := [global, inner, onInstance, static]

/-- What stands between the longname of the parent and the name. -/
def separator : Scope → String
  | onInstance => "#"
  | inner => "~"
  | static | global => "."

end Scope

inductive Access where
  | publicAccess
  | protectedAccess
  | privateAccess
  deriving DecidableEq, Repr, Inhabited

namespace Access

def name : Access → String
  | publicAccess => "public"
  | protectedAccess => "protected"
  | privateAccess => "private"

def all : List Access := [publicAccess, protectedAccess, privateAccess]

end Access

/-- A declaration that a member is to be copied from elsewhere under another name. -/
structure Borrow where
  source : String
  asName : String
  deriving DecidableEq, Repr, Inhabited

/-- A tag that was kept without being interpreted. -/
structure Tag where
  title : String
  value : String
  deriving DecidableEq, Repr, Inhabited

/-- Where a doclet was found. -/
structure Origin where
  path : Path
  filename : String
  line : Nat
  deriving DecidableEq, Repr, Inhabited

structure Doclet where
  name : String
  longname : String
  kind : Kind
  memberOf : Option String := none
  scope : Option Scope := none
  access : Option Access := none
  description : Option String := none
  summary : Option String := none
  augments : List String := []
  mixes : List String := []
  implements : List String := []
  borrowed : List Borrow := []
  /-- Copied from an ancestor. -/
  inherited : Bool := false
  /-- The longname of the ancestor's member it was copied from. -/
  inherits : Option String := none
  /-- Copied from a mixin. -/
  mixed : Bool := false
  undocumented : Bool := false
  tags : List Tag := []
  origin : Option Origin := none
  /-- The documented files, of a package. -/
  files : List Path := []
  version : Option String := none
  deriving DecidableEq, Repr, Inhabited

namespace Doclet

/-- A bare doclet whose longname is its name. -/
def named (name : String) (kind : Kind) : Doclet := { name, longname := name, kind }

/-- Makes the doclet a member of `parent`, with the longname that follows. -/
def setMemberOf (d : Doclet) (parent : String) (scope : Scope) : Doclet :=
  { d with
    memberOf := some parent
    scope := some scope
    longname := parent ++ scope.separator ++ d.name }

/-- The doclet of the package as a whole, from what is known about the package. -/
def ofPackage (metadata : Option Json) (files : List Path) : Doclet :=
  let field (key : String) : Option String :=
    metadata.bind fun m => (m.member? key).bind (·.string?)
  let name := (field "name").getD ""
  { named name .package with
    longname := "package:" ++ (if name.isEmpty then "undefined" else name)
    description := field "description"
    version := field "version"
    files }

def tag? (d : Doclet) (title : String) : Option Tag := d.tags.find? (·.title = title)

def isPrivate (d : Doclet) : Bool := d.access == some .privateAccess

end Doclet

end RefDoc
