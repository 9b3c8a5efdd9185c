import RefDoc.Path
import RefDoc.Text.Blank
import RefDoc.Text.Utf8

/-!
# File trees

The files a run sees, as a value: every place below the root that holds a file, a directory or a
symbolic link. `locate` follows a path as the system does, through links and `..`; every reading
and writing operation is `locate` and one look at, or one change of, the place it leads to.
-/

namespace RefDoc

inductive FileFault where
  | notFound
  | exists
  | notDirectory
  | isDirectory
  | tooManyLinks
  | notText
  | noParent
  deriving DecidableEq, Repr

def FileFault.message : FileFault → String
  | .notFound => "No such file or directory (os error 2)"
  | .exists => "File exists (os error 17)"
  | .notDirectory => "Not a directory (os error 20)"
  | .isDirectory => "Is a directory (os error 21)"
  | .tooManyLinks => "Too many levels of symbolic links (os error 40)"
  | .notText => "stream did not contain valid UTF-8"
  | .noParent => "failed to create whole tree"

inductive FileNode where
  | file (bytes : Text.Bytes)
  | directory
  | link (target : Path)
  deriving DecidableEq, Repr

/-- The names that lead from the root to a file or directory. -/
abbrev Place := List String

structure FileTree where
  entries : List (Place × FileNode)
  /-- The directory that relative paths start from. -/
  home : Place
  deriving Repr

namespace FileTree

def at? (t : FileTree) (place : Place) : Option FileNode :=
  if place.isEmpty then some .directory else t.entries.lookup place

def put (t : FileTree) (place : Place) (node : FileNode) : FileTree :=
  { t with entries := (place, node) :: t.entries.filter (·.1 ≠ place) }

def remove (t : FileTree) (place : Place) : FileTree :=
  { t with entries := t.entries.filter (·.1 ≠ place) }

/-- The name a place has in its directory `dir`. -/
def nameIn? (dir place : Place) : Option String :=
  match place.getLast? with
  | some name => if place.dropLast = dir then some name else none
  | none => none

/-- The names in a directory, in the order of their code points. -/
def names (t : FileTree) (dir : Place) : List String :=
  (t.entries.filterMap fun e => nameIn? dir e.1).mergeSort (fun a b => decide (a ≤ b))

/-! ### Following paths -/

/-- Where a path leads: to something, or to a free place in a directory. -/
inductive Found where
  | node (place : Place) (node : FileNode)
  | free (place : Place)
  deriving Repr

/-- The names a path goes through. A slash at the end asks for a directory, as a dot would. -/
def steps (p : Path) : List String :=
  let pieces := (Text.splitAll (· == '/') p.text.toList).map String.ofList
  let trailing := if pieces.getLast? == some "" then ["."] else []
  pieces.filter (· ≠ "") ++ trailing

def origin (t : FileTree) (p : Path) : Place := if p.isAbsolute then [] else t.home

/-- The most links one path may go through. -/
def linkLimit : Nat := 40

/-- Follows `todo` from `here`; `last` says whether a link at the very end is followed too. -/
def walk (t : FileTree) (last : Bool) (links : Nat) (here : Place) (todo : List String) :
    Except FileFault Found :=
  match todo with
  | [] =>
    match t.at? here with
    | some node => .ok (.node here node)
    | none => .error .notFound
  | name :: rest =>
    match t.at? here with
    | none => .error .notFound
    | some (.file _) | some (.link _) => .error .notDirectory
    | some .directory =>
      if name = "." then walk t last links here rest
      else if name = ".." then walk t last links here.dropLast rest
      else
        let place := here ++ [name]
        match t.at? place with
        | none => if rest.isEmpty then .ok (.free place) else .error .notFound
        | some (.link target) =>
          if rest.isEmpty && !last then .ok (.node place (.link target))
          else
            match links with
            | 0 => .error .tooManyLinks
            | links + 1 =>
              walk t last links (if target.isAbsolute then [] else here) (steps target ++ rest)
        | some _ => walk t last links place rest
termination_by (links, todo.length)

def locate (t : FileTree) (last : Bool) (p : Path) : Except FileFault Found :=
  if p.text.isEmpty then .error .notFound
  else t.walk last linkLimit (t.origin p) (steps p)

/-- What a path leads to, through a link at its end. -/
def node (t : FileTree) (p : Path) : Except FileFault (Place × FileNode) :=
  match t.locate true p with
  | .error e => .error e
  | .ok (.node place node) => .ok (place, node)
  | .ok (.free _) => .error .notFound

/-! ### Reading -/

def isFile (t : FileTree) (p : Path) : Bool :=
  match t.node p with
  | .ok (_, .file _) => true
  | _ => false

def isDirectory (t : FileTree) (p : Path) : Bool :=
  match t.node p with
  | .ok (_, .directory) => true
  | _ => false

def exists? (t : FileTree) (p : Path) : Bool := (t.node p).isOk

def readBytes (t : FileTree) (p : Path) : Except FileFault Text.Bytes :=
  match t.node p with
  | .error e => .error e
  | .ok (_, .file bytes) => .ok bytes
  | .ok (_, _) => .error .isDirectory

def readText (t : FileTree) (p : Path) : Except FileFault String := do
  match Text.decodeUtf8 (← t.readBytes p) with
  | .ok text => .ok text
  | .error _ => .error .notText

/-- The directory a path leads to. -/
def openDirectory (t : FileTree) (p : Path) : Except FileFault Place :=
  match t.node p with
  | .error e => .error e
  | .ok (place, .directory) => .ok place
  | .ok (_, _) => .error .notDirectory

/-- The target of the link at the end of a path, if there is one. -/
def linkTarget? (t : FileTree) (p : Path) : Option Path :=
  match t.locate false p with
  | .ok (.node _ (.link target)) => some target
  | _ => none

/-- The files at most `depth` levels below the directory at `place`, which is written `path`:
a directory's content stands where the directory does, and names come in order. Names that `skip`
accepts are left out with all below them; links are not followed. -/
def filesBelow (t : FileTree) (skip : String → Bool) : Nat → Place → Path → List Path
  | 0, _, _ => []
  | depth + 1, place, path =>
    (t.names place).flatMap fun name =>
      if skip name then []
      else
        match t.at? (place ++ [name]) with
        | some (.file _) => [path.join ⟨name⟩]
        | some .directory => filesBelow t skip depth (place ++ [name]) (path.join ⟨name⟩)
        | _ => []

/-! ### Writing -/

def writeText (t : FileTree) (p : Path) (text : String) : Except FileFault FileTree :=
  match t.locate true p with
  | .error e => .error e
  | .ok (.node place (.file _))
  | .ok (.free place) => .ok (t.put place (.file (Text.encodeUtf8 text)))
  | .ok (.node _ _) => .error .isDirectory

/-- Moves the file at `source` to `target`, in place of a file or link that is there. -/
def rename (t : FileTree) (source target : Path) : Except FileFault FileTree :=
  match t.locate false source, t.locate false target with
  | .error e, _ => .error e
  | .ok (.free _), _ => .error .notFound
  | _, .error e => .error e
  | .ok (.node _ _), .ok (.node _ .directory) => .error .isDirectory
  | .ok (.node origin node), .ok (.node place _) | .ok (.node origin node), .ok (.free place) =>
    .ok ((t.remove origin).put place node)

/-- Makes one directory. -/
def makeDirectory (t : FileTree) (p : Path) : Except FileFault FileTree :=
  let names := (steps p).reverse
  let names := if p.text.toList.getLast? == some '/' then names.drop 1 else names
  match names with
  | [] => if p.text.isEmpty then .error .notFound else .error .exists
  | name :: before =>
    match t.walk true linkLimit (t.origin p) before.reverse with
    | .error e => .error e
    | .ok (.free _) => .error .notFound
    | .ok (.node dir .directory) =>
      if name = "." || name = ".." then .error .exists
      else if (t.at? (dir ++ [name])).isSome then .error .exists
      else .ok (t.put (dir ++ [name]) .directory)
    | .ok (.node _ _) => .error .notDirectory

/-- Makes a directory and those above it that are missing, as far as they can be made: what has been
made stays, also on a fault. -/
def tryDirectories (t : FileTree) (p : Path) : Except FileFault Unit × FileTree :=
  go p.components.length p
where
  go : Nat → Path → Except FileFault Unit × FileTree
    | fuel, p =>
      if p.components.isEmpty then (.ok (), t)
      else
        match t.makeDirectory p with
        | .ok t' => (.ok (), t')
        | .error .notFound =>
          match fuel, p.parent? with
          | fuel + 1, some above =>
            match go fuel above with
            | (.error e, t') => (.error e, t')
            | (.ok (), t') =>
              match t'.makeDirectory p with
              | .ok t'' => (.ok (), t'')
              | .error e => (if t'.isDirectory p then .ok () else .error e, t')
          | _, _ => (.error .noParent, t)
        | .error e => (if t.isDirectory p then .ok () else .error e, t)

/-- The tree with the directory and those above it, if they can all be made. -/
def makeDirectories (t : FileTree) (p : Path) : Except FileFault FileTree :=
  (t.tryDirectories p).1.map fun _ => (t.tryDirectories p).2

end FileTree

end RefDoc
