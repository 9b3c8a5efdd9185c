import RefDoc.Proofs.FileTree
import RefDoc.Proofs.FileTree.Listing
import RefDoc.Source.Scan

/-!
# What scans find

A path stands for nothing, for itself, or for the files below it that a traversal shows
(`StandsFor`). A scan gives the accepted ones of what its paths stand for, path by path
(`FileTree.scan_finds`). A scan always looks into a directory: the depth 0 counts as 1
(`FileTree.scanned_to_no_depth`).
-/

namespace RefDoc.FileTree

variable {t : FileTree} {filter : SourceFilter} {depth : Nat} {workingDir : Path}

/-- The ways to the files below the directory at `place`, to a depth, in the order of a traversal:
what is in a directory stands where the directory does, and siblings stand by name. Unless `dots`
are wanted no name on a way begins with one. -/
structure Shows (t : FileTree) (dots : Bool) (depth : Nat) (place : Place)
    (ways : List (List String)) : Prop where
  ordered : ways.Pairwise (· < ·)
  mem_iff : ∀ way, way ∈ ways ↔ 1 ≤ way.length ∧ way.length ≤ depth ∧
    (dots ∨ ∀ name ∈ way, name.toList.head? ≠ some '.') ∧ t.LeadsToFile place way

/-- The files that a path stands for. -/
inductive StandsFor (t : FileTree) (dots : Bool) (depth : Nat) (p : Path) : List Path → Prop
  | nothing {e : FileFault} (lost : t.node p = .error e) : StandsFor t dots depth p []
  | itself {place : Place} {bytes : Text.Bytes} (found : t.node p = .ok (place, .file bytes)) :
      StandsFor t dots depth p [p]
  | below {place : Place} {node : FileNode} {ways : List (List String)}
      (found : t.node p = .ok (place, node)) (noFile : ∀ bytes, node ≠ .file bytes)
      (shown : t.Shows dots depth place ways) : StandsFor t dots depth p (ways.map p.onward)

theorem Shows.unique {dots : Bool} {place : Place} {ways ways' : List (List String)}
    (shows : t.Shows dots depth place ways) (shows' : t.Shows dots depth place ways') :
    ways' = ways := by
  refine List.Perm.eq_of_pairwise (fun _ _ _ _ less more => ?_) shows'.ordered shows.ordered ?_
  · exact absurd less (lt_asymm more)
  · refine (List.perm_ext_iff_of_nodup ?_ ?_).mpr fun way => ?_
    · exact shows'.ordered.imp ne_of_lt
    · exact shows.ordered.imp ne_of_lt
    · rw [shows'.mem_iff, shows.mem_iff]

theorem StandsFor.unique {dots : Bool} {p : Path} {files files' : List Path}
    (stands : t.StandsFor dots depth p files) (stands' : t.StandsFor dots depth p files') :
    files' = files := by
  cases stands with
  | nothing lost =>
    cases stands' with
    | nothing => rfl
    | itself found | below found => simp [lost] at found
  | itself found =>
    cases stands' with
    | nothing lost => simp [lost] at found
    | itself => rfl
    | below found' noFile =>
      rw [found] at found'
      cases found'
      exact absurd rfl (noFile _)
  | below found noFile shown =>
    cases stands' with
    | nothing lost => simp [lost] at found
    | itself found' =>
      rw [found] at found'
      cases found'
      exact absurd rfl (noFile _)
    | below found' _ shown' =>
      rw [found] at found'
      cases found'
      rw [shown.unique shown']

theorem skips_eq_false {name : String} :
    filter.skips name = false ↔ filter.includeDotfiles ∨ name.toList.head? ≠ some '.' := by
  unfold SourceFilter.skips
  cases filter.includeDotfiles <;> simp

theorem shows_waysBelow (once : t.Unrepeated) (place : Place) :
    t.Shows filter.includeDotfiles depth place (t.waysBelow filter.skips depth place) := by
  refine ⟨pairwise_waysBelow once, fun way => ?_⟩
  rw [mem_waysBelow]
  refine and_congr_right fun _ => and_congr_right fun _ => and_congr_left fun _ => ?_
  simp only [skips_eq_false]
  cases filter.includeDotfiles <;> simp

/-- What a visit finds is what the path stands for. -/
theorem standsFor_visit (once : t.Unrepeated) (p : Path) :
    t.StandsFor filter.includeDotfiles (max depth 1) p
      ((t.visit filter depth p).toOption.getD []) := by
  unfold visit
  rcases found : t.node p with e | ⟨place, node⟩
  · exact .nothing found
  · have walked (noFile : ∀ bytes, node ≠ .file bytes) :
        t.StandsFor filter.includeDotfiles (max depth 1) p
          (t.filesBelow filter.skips (max depth 1) place p) := by
      rw [filesBelow_eq]
      exact .below found noFile (shows_waysBelow once place)
    cases node with
    | file bytes => exact .itself found
    | directory | link => exact walked nofun

theorem scan_fst (ps : List Path) :
    (t.scan filter depth workingDir ps).1 =
      (ps.flatMap fun p => (t.visit filter depth (workingDir.join p)).toOption.getD []).filter
        filter.accepts := by
  simp [scan, visitAll, List.flatMap_map]

theorem visit_sublist {deeper : Nat} (deep : depth ≤ deeper) (p : Path) :
    ((t.visit filter depth p).toOption.getD []).Sublist
      ((t.visit filter deeper p).toOption.getD []) := by
  unfold visit
  split
  · exact .refl _
  · exact .refl _
  · show (filesBelow ..).Sublist (filesBelow ..)
    rw [filesBelow_eq, filesBelow_eq]
    exact (waysBelow_sublist (by omega)).map _

/-- **A scan finds what is there.** It gives the accepted files of those that its paths stand for,
in their order, at the depth 0 as at the depth 1. Scans of two lists add up, a path that leads
nowhere affects no other, and deeper scans only find more. -/
theorem scan_finds (once : t.Unrepeated) (filter : SourceFilter) (depth : Nat) (workingDir : Path)
    (ps : List Path) :
    (∃ found, List.Forall₂ (t.StandsFor filter.includeDotfiles (max depth 1))
        (ps.map workingDir.join) found ∧
      (∀ other, List.Forall₂ (t.StandsFor filter.includeDotfiles (max depth 1))
        (ps.map workingDir.join) other → other = found) ∧
      (t.scan filter depth workingDir ps).1 = found.flatten.filter filter.accepts) ∧
    (∀ qs, (t.scan filter depth workingDir (ps ++ qs)).1 =
      (t.scan filter depth workingDir ps).1 ++ (t.scan filter depth workingDir qs).1) ∧
    (∀ p e qs, t.node (workingDir.join p) = .error e →
      (t.scan filter depth workingDir (ps ++ p :: qs)).1 =
        (t.scan filter depth workingDir (ps ++ qs)).1) ∧
    ∀ deeper, depth ≤ deeper →
      (t.scan filter depth workingDir ps).1.Sublist (t.scan filter deeper workingDir ps).1 := by
  refine ⟨?_, fun qs => ?_, fun p e qs lost => ?_, fun deeper deep => ?_⟩
  · have stands : List.Forall₂ (t.StandsFor filter.includeDotfiles (max depth 1))
        (ps.map workingDir.join)
        (ps.map fun p => (t.visit filter depth (workingDir.join p)).toOption.getD []) :=
      List.forall₂_map_left_iff.mpr <| List.forall₂_map_right_iff.mpr <|
        List.forall₂_same.mpr fun p _ => standsFor_visit once _
    refine ⟨_, stands, fun other stands' => ?_, ?_⟩
    · refine List.right_unique_forall₂' (fun _ _ _ first second => ?_) stands' stands
      exact second.unique first
    · rw [scan_fst, List.flatMap_def]
  · simp [scan_fst]
  · simp [scan_fst, visit, lost, Except.toOption]
  · rw [scan_fst, scan_fst]
    exact (List.Sublist.flatMap_right _ fun p _ => visit_sublist deep _).filter _

/-! ### A directory with other things than files -/

/-- In `d` are a directory with a dot, a script, a link to a script, and a directory that goes down
another level. -/
def annex : FileTree where
  entries :=
    [(["b.js"], .file []), (["d"], .directory), (["d", "s"], .directory),
      (["d", ".git"], .directory), (["d", ".git", "x.js"], .file []), (["d", "a.js"], .file []),
      (["d", "l.js"], .link ⟨"../b.js"⟩), (["d", "s", "c.js"], .file []),
      (["d", "s", "t"], .directory), (["d", "s", "t", "e.js"], .file [])]
  home := []

theorem annex_filesBelow {skip : String → Bool}
    (skipped : skip ".git" ∧ ∀ name ∈ ["a.js", "l.js", "s", "c.js", "t"], skip name = false) :
    annex.filesBelow skip 2 ["d"] ⟨"d"⟩ = [⟨"d/a.js"⟩, ⟨"d/s/c.js"⟩] := by
  have above : annex.names ["d"] = [".git", "a.js", "l.js", "s"] := by
    simp +decide [names, nameIn?, annex, List.mergeSort]
  have below : annex.names ["d", "s"] = ["c.js", "t"] := by
    simp +decide [names, nameIn?, annex, List.mergeSort]
  have script : annex.at? ["d", "a.js"] = some (.file []) := rfl
  have link : annex.at? ["d", "l.js"] = some (.link ⟨"../b.js"⟩) := rfl
  have directory : annex.at? ["d", "s"] = some .directory := rfl
  have deeper : annex.at? ["d", "s", "c.js"] = some (.file []) := rfl
  have deepest : annex.at? ["d", "s", "t"] = some .directory := rfl
  have first : Path.join ⟨"d"⟩ ⟨"a.js"⟩ = ⟨"d/a.js"⟩ := rfl
  have second : (Path.join ⟨"d"⟩ ⟨"s"⟩).join ⟨"c.js"⟩ = ⟨"d/s/c.js"⟩ := rfl
  simp only [List.forall_mem_cons] at skipped
  simp [filesBelow, above, below, skipped, script, link, directory, deeper, deepest, first, second]

/-- Of all that the paths lead to, two files are found in the directory and one by itself. -/
theorem scan_finds_annex : annex.Unrepeated ∧
    ∃ filter, SourceFilter.ofRules .standard ⟨""⟩ = .ok filter ∧
      ∃ found, List.Forall₂ (annex.StandsFor filter.includeDotfiles 2)
        [⟨"d"⟩, ⟨"gone"⟩, ⟨"b.js"⟩] found ∧
        found.flatten.filter filter.accepts = [⟨"d/a.js"⟩, ⟨"d/s/c.js"⟩, ⟨"b.js"⟩] := by
  have once : annex.Unrepeated := by decide
  obtain ⟨filter, read, skipped, accepted⟩ : ∃ filter,
      SourceFilter.ofRules .standard ⟨""⟩ = .ok filter ∧
        (filter.skips ".git" ∧
          ∀ name ∈ ["a.js", "l.js", "s", "c.js", "t"], filter.skips name = false) ∧
        [⟨"d/a.js"⟩, ⟨"d/s/c.js"⟩, ⟨"b.js"⟩].filter filter.accepts =
          [⟨"d/a.js"⟩, ⟨"d/s/c.js"⟩, ⟨"b.js"⟩] :=
    ⟨_, rfl, ⟨rfl, by simp [SourceFilter.skips]⟩, rfl⟩
  have directory : annex.visit filter 2 ⟨"d"⟩ = .ok [⟨"d/a.js"⟩, ⟨"d/s/c.js"⟩] := by
    have node : annex.node ⟨"d"⟩ = .ok (["d"], .directory) :=
      IsName.node_directory (t := annex) ⟨rfl, rfl, rfl, by decide, rfl⟩ rfl
    rw [visit, node]
    exact congrArg Except.ok (annex_filesBelow skipped)
  have missing : annex.visit filter 2 ⟨"gone"⟩ = .error .notFound := by
    have node : annex.node ⟨"gone"⟩ = .error .notFound :=
      IsName.node_none (t := annex) ⟨rfl, rfl, rfl, by decide, rfl⟩ (rfl : _ = none)
    rw [visit, node]
  have file : annex.visit filter 2 ⟨"b.js"⟩ = .ok [⟨"b.js"⟩] := by
    have node : annex.node ⟨"b.js"⟩ = .ok (["b.js"], .file []) :=
      IsName.node_file (t := annex) ⟨rfl, rfl, rfl, by decide, rfl⟩ rfl
    rw [visit, node]
  have joined (p : Path) : Path.join ⟨""⟩ p = p := by simp [Path.join]
  obtain ⟨⟨found, stands, -, given⟩, -⟩ :=
    scan_finds once filter 2 ⟨""⟩ [⟨"d"⟩, ⟨"gone"⟩, ⟨"b.js"⟩]
  refine ⟨once, filter, read, found, stands, ?_⟩
  rw [← given, scan_fst]
  simpa [joined, directory, missing, file, Except.toOption] using accepted

/-! ### A directory with a file -/

def aisle : FileTree := ⟨[(["d"], .directory), (["d", "a.js"], .file [])], []⟩

theorem aisle_node : aisle.node ⟨"d"⟩ = .ok (["d"], .directory) :=
  IsName.node_directory (t := aisle) ⟨rfl, rfl, rfl, by decide, rfl⟩ rfl

/-- By the usual rules the file is found, at any depth. -/
theorem aisle_scan (depth : Nat) : ∃ filter, SourceFilter.ofRules .standard ⟨""⟩ = .ok filter ∧
    filter.includeDotfiles = false ∧
    (aisle.scan filter depth ⟨""⟩ [⟨"d"⟩]).1 = [⟨"d/a.js"⟩] := by
  obtain ⟨filter, read, undotted, seen, accepted⟩ : ∃ filter,
      SourceFilter.ofRules .standard ⟨""⟩ = .ok filter ∧ filter.includeDotfiles = false ∧
        filter.skips "a.js" = false ∧ filter.accepts ⟨"d/a.js"⟩ = true :=
    ⟨_, rfl, rfl, rfl, rfl⟩
  refine ⟨filter, read, undotted, ?_⟩
  have names : aisle.names ["d"] = ["a.js"] := by
    simp [names, nameIn?, aisle]
  have file : aisle.at? (["d"] ++ ["a.js"]) = some (.file []) := rfl
  obtain ⟨more, deep⟩ := Nat.exists_eq_add_of_le (Nat.le_max_right depth 1)
  have visited : aisle.visit filter depth (Path.join ⟨""⟩ ⟨"d"⟩) = .ok [⟨"d/a.js"⟩] := by
    rw [visit, show Path.join ⟨""⟩ ⟨"d"⟩ = ⟨"d"⟩ from rfl, aisle_node]
    dsimp only
    rw [deep, Nat.add_comm, filesBelow, names]
    simp only [List.flatMap_cons, List.flatMap_nil, seen, file]
    rfl
  simp [scan_fst, visited, Except.toOption, accepted]

/-- To no depth at all the directory stands for nothing, but a scan finds the file. -/
theorem scanned_to_no_depth : ∃ filter, SourceFilter.ofRules .standard ⟨""⟩ = .ok filter ∧
    aisle.StandsFor filter.includeDotfiles 0 ⟨"d"⟩ [] ∧
    (aisle.scan filter 0 ⟨""⟩ [⟨"d"⟩]).1 = [⟨"d/a.js"⟩] := by
  obtain ⟨filter, read, -, scanned⟩ := aisle_scan 0
  refine ⟨filter, read, ?_, scanned⟩
  have shows : aisle.Shows filter.includeDotfiles 0 ["d"] [] :=
    ⟨.nil, fun way => by
      simp only [List.not_mem_nil, false_iff]
      omega⟩
  exact .below aisle_node nofun shows

end RefDoc.FileTree
