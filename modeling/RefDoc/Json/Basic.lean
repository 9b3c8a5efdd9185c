import RefDoc.Json.Double
import RefDoc.Table

/-!
# JSON values

Numbers are integers where they fit in 64 bits and doubles otherwise. The members of an object stand
in the order they were given; `ofTable` lists them by name.
-/

namespace RefDoc

namespace Json

inductive Number where
  | integer (value : Int)
  | double (value : Double)
  deriving DecidableEq, Repr, Inhabited

def Number.text : Number → String
  | .integer i => toString i
  | .double d => d.text

end Json

inductive Json where
  | null
  | bool (value : Bool)
  | number (value : Json.Number)
  | string (value : String)
  | array (items : List Json)
  | object (members : List (String × Json))
  deriving Repr, Inhabited, BEq

namespace Json

def ofNat (n : Nat) : Json := .number (.integer n)

def ofTable (t : Table Json) : Json := .object t.entries

def strings (l : List String) : Json := .array (l.map .string)

/-- The value of the first member with that name. -/
def member? (name : String) : Json → Option Json
  | .object members => members.lookup name
  | _ => none

def string? : Json → Option String
  | .string s => some s
  | _ => none

end Json

end RefDoc
