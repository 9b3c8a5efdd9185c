import RefDoc.Desk
import RefDoc.Source.Filter

/-!
# Scanning

Paths become the source files that they stand for: a file itself, and a directory the files in it,
to a given depth. A path that leads nowhere is logged and skipped.
-/

namespace RefDoc

/-- How deep a scan goes. -/
def scanDepth (recurse : Bool) : Nat := if recurse then 10 else 1

/-- The files that a path stands for, of whatever kind. -/
def FileTree.visit (t : FileTree) (filter : SourceFilter) (depth : Nat) (p : Path) :
    Except FileFault (List Path) :=
  match t.node p with
  | .error e => .error e
  | .ok (_, .file _) => .ok [p]
  | .ok (place, _) => .ok (t.filesBelow filter.skips (max depth 1) place p)

def unreadableEvent (p : Path) (e : FileFault) : Event :=
  .error "unable to read source path" [("path", p.text), ("error", e.message)]

/-- The files below each path, and what was logged for it. -/
def FileTree.visitAll (t : FileTree) (filter : SourceFilter) (depth : Nat) (ps : List Path) :
    List Path × List Event :=
  let visits := ps.map fun p => (p, t.visit filter depth p)
  (visits.flatMap fun (_, v) => v.toOption.getD [],
    visits.filterMap fun (p, v) =>
      match v with
      | .ok _ => none
      | .error e => some (unreadableEvent p e))

/-- The sources among the files that the paths stand for, seen from the working directory, in the
order in which they are met. -/
def FileTree.scan (t : FileTree) (filter : SourceFilter) (depth : Nat) (workingDir : Path)
    (ps : List Path) : List Path × List Event :=
  let (visited, log) := t.visitAll filter depth (ps.map workingDir.join)
  let kept := visited.filter filter.accepts
  (kept,
    log ++
      [.debug "scan complete"
        [("visited", toString visited.length), ("kept", toString kept.length),
          ("depth", toString depth)]])

end RefDoc
