import RefDoc.Json.Decode
import RefDoc.Path

/-!
# Encoding

Members of an object that are written only when there is something to write, and paths, which are
strings.
-/

namespace RefDoc

namespace Json

/-- A member for a value that is there. -/
def ifSome {α : Type} (key : String) (toJson : α → Json) : Option α → List (String × Json)
  | some a => [(key, toJson a)]
  | none => []

/-- A member for a list that is not empty. -/
def ifAny {α : Type} (key : String) (toJson : α → Json) : List α → List (String × Json)
  | [] => []
  | l => [(key, .array (l.map toJson))]

/-- A member for a flag that is set. -/
def ifTrue (key : String) (flag : Bool) : List (String × Json) :=
  if flag then [(key, .bool true)] else []

def ofPath (p : Path) : Json := .string p.text

def readPath (t : Tree) : Decoded Path := Path.mk <$> readString? "path string" t

end Json

end RefDoc
