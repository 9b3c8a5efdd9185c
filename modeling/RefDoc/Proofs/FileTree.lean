import RefDoc.FileTree.Basic

/-!
# Names in a directory

A path that is one name leads to what has that name in the directory that relative paths start from.
-/

namespace RefDoc.FileTree

/-- The path is a name, and relative paths start from a directory. -/
structure IsName (t : FileTree) (p : Path) (name : String) : Prop where
  written : p.text.isEmpty = false
  relative : p.isAbsolute = false
  steps_eq : steps p = [name]
  proper : name ≠ "." ∧ name ≠ ".."
  home : t.at? t.home = some .directory

variable {t : FileTree} {p : Path} {name : String}

theorem IsName.node_none (is : t.IsName p name) (free : t.at? (t.home ++ [name]) = none) :
    t.node p = .error .notFound := by
  have walked : t.walk true linkLimit t.home [name] = .ok (.free (t.home ++ [name])) := by
    simp [walk, is.home, is.proper, free]
  simp [node, locate, origin, is.written, is.relative, is.steps_eq, walked]

theorem IsName.node_file (is : t.IsName p name) {bytes : Text.Bytes}
    (file : t.at? (t.home ++ [name]) = some (.file bytes)) :
    t.node p = .ok (t.home ++ [name], .file bytes) := by
  have walked : t.walk true linkLimit t.home [name] =
      .ok (.node (t.home ++ [name]) (.file bytes)) := by
    simp [walk, is.home, is.proper, file]
  simp [node, locate, origin, is.written, is.relative, is.steps_eq, walked]

theorem IsName.node_directory (is : t.IsName p name)
    (directory : t.at? (t.home ++ [name]) = some .directory) :
    t.node p = .ok (t.home ++ [name], .directory) := by
  have walked : t.walk true linkLimit t.home [name] =
      .ok (.node (t.home ++ [name]) .directory) := by
    simp [walk, is.home, is.proper, directory]
  simp [node, locate, origin, is.written, is.relative, is.steps_eq, walked]

end RefDoc.FileTree
