import RefDoc.Run.Program

/-!
# The command line

Reads the files that a run may look at, runs the program on them, and writes what it has changed.
The files are those below the working directory, the installation, the directory of installed
extensions and the absolute paths of the command line.
-/

namespace RefDoc

/-- Adds a directory and those above it. -/
def FileTree.withDirectory (t : FileTree) (place : Place) : FileTree :=
  (List.range (place.length + 1)).foldl
    (fun t k =>
      let above := place.take k
      if (t.at? above).isSome then t else t.put above .directory)
    t

namespace Disk

/-- Adds what stands at a path, and what stands below it or at the end of a link. -/
partial def remember (t : FileTree) (path : String) : IO FileTree := do
  let place := FileTree.steps ⟨path⟩
  if (t.at? place).isSome then return t
  let t := t.withDirectory place.dropLast
  try
    let entries ← (← IO.FS.realPath path).readDir
    let mut t := t.put place .directory
    for e in entries do
      let name := path ++ "/" ++ e.fileName
      match (← e.path.symlinkMetadata).type with
      | .symlink =>
        let target := (← IO.FS.realPath e.path).toString
        t ← remember (t.put (place ++ [e.fileName]) (.link ⟨target⟩)) target
      | .dir => t ← remember t name
      | .file =>
        let bytes ← IO.FS.readBinFile e.path
        t := t.put (place ++ [e.fileName]) (.file bytes.toList)
      | .other => pure ()
    return t
  catch _ =>
    try
      return t.put place (.file (← IO.FS.readBinFile path).toList)
    catch _ => return t

/-- Writes what is new in `after`. -/
def update (before after : FileTree) : IO Unit := do
  for (place, node) in after.entries.reverse do
    let path := "/" ++ "/".intercalate place
    if before.at? place != some node then
      match node with
      | .directory => IO.FS.createDirAll path
      | .file bytes => IO.FS.writeBinFile path ⟨bytes.toArray⟩
      | .link _ => pure ()

end Disk

/-- Where programs keep the data of a user. -/
def dataDir : IO (Option Path) := do
  match ← IO.getEnv "XDG_DATA_HOME", ← IO.getEnv "HOME" with
  | some dir, home =>
    if (Path.mk dir).isAbsolute then return some ⟨dir⟩
    return home.map fun home => ⟨home⟩ / ⟨".local/share"⟩
  | none, home => return home.map fun home => ⟨home⟩ / ⟨".local/share"⟩

def surroundings (arguments : List String) : IO Surroundings := do
  let here := (← IO.currentDir).toString
  let program := (← IO.appPath).toString
  let signals : HostSignals :=
    { moduleUri := (← IO.getEnv moduleVariable).filter (!·.isEmpty)
      shellDir := (← IO.getEnv "PWD").map Path.mk
      executable := some ⟨program⟩
      currentDir := some ⟨here⟩
      words := program :: arguments }
  let blank : Surroundings :=
    { files := { entries := [], home := FileTree.steps ⟨here⟩ }, signals, dataDir := ← dataDir }
  let root : Option Path :=
    match signals.detect.bind (signals.roots blank.files) with
    | .ok roots => some roots.root
    | .error _ => none
  let roots := root.toList ++ blank.installedDir.toList ++ signals.shellDir.toList
  let wanted := (Path.mk here :: roots ++ arguments.map Path.mk).filter (·.isAbsolute)
  let files ← wanted.foldlM (fun t p => Disk.remember t p.text) blank.files
  return { blank with files }

end RefDoc

open RefDoc in
def main (arguments : List String) : IO UInt32 := do
  let s ← surroundings arguments
  let result := s.run
  Disk.update s.files result.files
  for line in result.shownLog do IO.eprintln line
  IO.eprint result.complaint
  IO.print result.output
  return UInt32.ofNat result.exitCode
