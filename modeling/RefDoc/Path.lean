/-!
# Paths

A path is kept as it was written. Its components are what lies between slashes, less the empty
ones and the dots that are not at the very start; two spellings of the same components are
different paths. Nothing here looks at any file.
-/

namespace RefDoc

structure Path where
  text : String
  deriving DecidableEq, Repr, Inhabited

namespace Path

inductive Component where
  | root
  /-- A leading `.`. -/
  | here
  | up
  | name (text : String)
  deriving DecidableEq, Repr

def isAbsolute (p : Path) : Bool := p.text.toList.head? == some '/'

/-- The pieces between slashes, each with the number of characters up to its end. -/
def pieces (offset : Nat) (piece : List Char) : List Char → List (String × Nat)
  | [] => [(String.ofList piece.reverse, offset)]
  | '/' :: rest => (String.ofList piece.reverse, offset) :: pieces (offset + 1) [] rest
  | c :: rest => pieces (offset + 1) (c :: piece) rest

def componentOf? (first : Bool) (piece : String) : Option Component :=
  if piece = "" then none
  else if piece = "." then if first then some .here else none
  else if piece = ".." then some .up
  else some (.name piece)

/-- The components of a path, each with the number of characters up to its end. -/
def placedComponents (p : Path) : List (Component × Nat) :=
  let all := pieces 0 [] p.text.toList
  let place (first : Bool) (piece : String × Nat) :=
    (componentOf? first piece.1).map fun c => (c, piece.2)
  if p.isAbsolute then (.root, 1) :: all.filterMap (place false)
  else
    match all with
    | [] => []
    | first :: others => (place true first).toList ++ others.filterMap (place false)

def components (p : Path) : List Component := p.placedComponents.map (·.1)

/-- `other` seen from `p`: an absolute path stands alone, and joining the empty path leaves a
slash at the end. -/
def join (p other : Path) : Path :=
  if other.isAbsolute then other
  else if p.text.isEmpty || p.text.toList.getLast? == some '/' then ⟨p.text ++ other.text⟩
  else ⟨p.text ++ "/" ++ other.text⟩

instance : Div Path := ⟨join⟩

/-- The last component, if it is a name. -/
def fileName? (p : Path) : Option String :=
  match p.components.getLast? with
  | some (.name n) => some n
  | _ => none

/-- The path up to the end of the component before the last. -/
def parent? (p : Path) : Option Path :=
  match p.placedComponents.reverse with
  | [] | [(.root, _)] => none
  | [_] => some ⟨""⟩
  | _ :: (_, stop) :: _ => some ⟨String.ofList (p.text.toList.take stop)⟩

/-- The path with its last component replaced by `name`. -/
def withFileName (p : Path) (name : String) : Path :=
  match p.fileName? with
  | none => p.join ⟨name⟩
  | some _ => (p.parent?.getD p).join ⟨name⟩

/-- A file name before and after its last dot. A dot at the start does not count. -/
def splitAtDot (name : String) : String × Option String :=
  let backwards := name.toList.reverse
  let after := backwards.takeWhile (· ≠ '.')
  match backwards.dropWhile (· ≠ '.') with
  | [] | ['.'] => (name, none)
  | _ :: before => (String.ofList before.reverse, some (String.ofList after.reverse))

def stem? (p : Path) : Option String := p.fileName?.map fun n => (splitAtDot n).1

def extension? (p : Path) : Option String := p.fileName?.bind fun n => (splitAtDot n).2

/-- Whether the components of `start` come first in `p`. -/
def startsWith (p start : Path) : Bool := start.components.isPrefixOf p.components

end Path

end RefDoc
