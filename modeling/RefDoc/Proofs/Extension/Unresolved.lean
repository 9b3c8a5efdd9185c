import RefDoc.Proofs.Extension.Loading
import RefDoc.Proofs.FileTree.Directories
import RefDoc.Proofs.FileTree.Entries

/-!
# Templates that are not found

A template comes from a directory that its specifier stands for, or from the catalog. A specifier
that leads nowhere is looked at once more, seen from where relative paths start: there has to be no
manifest there for the loading to fail as it should (`Template.load_unresolved`). There is none if
one of the roots is that very place.
-/

namespace RefDoc

/-! ### Seen from a root and from home -/

namespace FileTree

variable {t : FileTree} {p root : Path} {place : Place} {name : String}

theorem Opens.isDirectory (written : p.text.isEmpty = false) (opens : t.Opens p place) :
    t.isDirectory p := by
  obtain ⟨links, enters⟩ := opens
  obtain ⟨dots, still, steps_eq⟩ := steps_eq_through p
  refine (isDirectory_iff written).mpr ⟨place, ?_⟩
  rw [steps_eq]
  exact (enters.append (enters_dots enters.directory still)).walk

/-- The path leads, through directories only, to where relative paths start. -/
def IsHome (t : FileTree) (root : Path) : Prop :=
  root.text.isEmpty = false ∧ t.Enters linkLimit (t.origin root) (through root) linkLimit t.home

/-- Below such a path everything is found that is found without it. -/
theorem IsHome.isDirectory_join (home : t.IsHome root) (relative : Path.isAbsolute ⟨name⟩ = false)
    (opens : t.Opens ⟨name⟩ place) : t.isDirectory (root / ⟨name⟩) := by
  obtain ⟨written, way⟩ := home
  obtain ⟨links, enters⟩ := opens
  obtain ⟨dots, still, steps_eq⟩ := steps_eq_through ⟨name⟩
  have written' : (root / ⟨name⟩ : Path).text.isEmpty = false := by
    rcases Path.join_text root relative with ⟨empty, -⟩ | ⟨cs, text, -⟩
    · simp [empty] at written
    · rw [Bool.eq_false_iff]
      intro empty
      simp [String.isEmpty_iff.mp empty] at text
  have start : t.origin (root / ⟨name⟩) = t.origin root := by
    rw [origin, Path.isAbsolute_join relative, origin]
  have start' : t.origin ⟨name⟩ = t.home := by simp [origin, relative]
  rw [start'] at enters
  refine (isDirectory_iff written').mpr ⟨place, ?_⟩
  rw [Path.steps_join_relative relative, steps_eq, start]
  exact (way.append (enters.append (enters_dots enters.directory still))).walk

theorem opens_of_readText {dir : Path} {text : String} (entry : IsEntry name)
    (read : t.readText (dir / ⟨name⟩) = .ok text) : ∃ place, t.Opens dir place := by
  unfold readText readBytes node at read
  cases located : t.locate true (dir / ⟨name⟩) with
  | error e =>
    rw [located] at read
    cases read
  | ok found =>
    obtain ⟨place, leads⟩ := leads_of_locate (Path.steps_join entry) located
    exact ⟨place, (leads_join entry).mp leads⟩

end FileTree

namespace Template

variable {σ : Type} {t : FileTree} {desk : Desk σ} {catalog : Catalog σ} {dir : Path}
  {specifier : String}

/-! ### Manifests -/

theorem isEntry_manifestName : IsEntry manifestName := ⟨by decide, by decide, by decide⟩

/-- The directory has a manifest in order, with this entry or with none. -/
def Declares (t : FileTree) (dir : Path) (entry : Option String) : Prop :=
  ∃ text, t.readText (dir / ⟨manifestName⟩) = .ok text ∧ entryOf? text = some entry

theorem Declares.opens {entry : Option String} (declares : Declares t dir entry) :
    ∃ place, t.Opens dir place := by
  obtain ⟨text, read, -⟩ := declares
  exact FileTree.opens_of_readText isEntry_manifestName read

/-- The manifest in the directory names the template. -/
def LoadsFrom (desk : Desk σ) (catalog : Catalog σ) (dir : Path) (template : Template σ) : Prop :=
  ∃ name, Declares desk.files dir (some name) ∧ catalog.template? desk name = some template

/-- A directory with a manifest in order gives a template or misses an entry point. -/
theorem loaded_of_declares {entry : Option String} (declares : Declares desk.files dir entry) :
    loaded catalog (.directory dir) desk =
      match entry.bind (catalog.template? desk) with
      | some template => .ok template
      | none => .error (.noEntryPoint dir.text) := by
  obtain ⟨text, read, given⟩ := declares
  cases entry with
  | none =>
    simp only [loaded, implementation, Template.entry, read, given]
    rfl
  | some name =>
    have entered : Template.entry desk.files (.directory dir) = .ok name := by
      simp only [Template.entry, read, given]
    simp only [loaded, implementation, entered, Option.bind_some, Catalog.template?]
    cases named : catalog.templates.get? name <;>
      simp [named, Location.text, bind, Except.bind, Except.map]

theorem loaded_of_not_declares (catalog : Catalog σ)
    (undeclared : ∀ entry, ¬ Declares desk.files dir entry) :
    ∃ message, loaded catalog (.directory dir) desk = .error (.templateLoad dir.text message) := by
  cases read : desk.files.readText (dir / ⟨manifestName⟩) with
  | error e => exact ⟨s!"cannot read {manifestName}: {e.message}", by
      simp only [loaded, implementation, entry, read]
      rfl⟩
  | ok text =>
    cases given : entryOf? text with
    | some entry => exact absurd ⟨text, read, given⟩ (undeclared entry)
    | none => exact ⟨s!"invalid {manifestName}: ", by
        simp only [loaded, implementation, entry, read, given]
        rfl⟩

theorem loadsFrom_of_loaded {template : Template σ}
    (loads : loaded catalog (.directory dir) desk = .ok template) :
    LoadsFrom desk catalog dir template := by
  by_cases declared : ∃ entry, Declares desk.files dir entry
  · obtain ⟨entry, declares⟩ := declared
    rw [loaded_of_declares declares] at loads
    cases named : entry.bind (catalog.template? desk) with
    | none => simp [named] at loads
    | some found =>
      obtain rfl : found = template := by simpa [named] using loads
      obtain ⟨name, rfl, known⟩ := Option.bind_eq_some_iff.mp named
      exact ⟨name, declares, known⟩
  · obtain ⟨message, failed⟩ := loaded_of_not_declares catalog (not_exists.mp declared)
    rw [failed] at loads
    cases loads

theorem loaded_builtin (name : String) :
    loaded catalog (.builtin name) desk =
      match catalog.template? desk name with
      | some template => .ok template
      | none => .error (.noEntryPoint (Location.builtin name).text) := by
  simp only [loaded, implementation, entry, Catalog.template?]
  cases named : catalog.templates.get? name <;>
    simp [named, bind, Except.bind, Except.map]

/-! ### What a specifier stands for -/

/-- A directory that was found, an entry of the catalog, or the specifier as it stands. -/
theorem find_cases (t : FileTree) (l : Locator) (catalog : Catalog σ) (specifier : String) :
    (∃ dir ∈ l.candidates ⟨specifier⟩, t.isDirectory dir ∧
      find t l catalog specifier = .directory dir) ∨
    (catalog.templates.contains specifier ∧ find t l catalog specifier = .builtin specifier) ∨
    (l.findDirectory? t specifier = none ∧ catalog.templates.contains specifier = false ∧
      find t l catalog specifier = .directory ⟨specifier⟩) := by
  have candidate {dir : Path} (located : l.findDirectory? t specifier = some dir) :
      dir ∈ l.candidates ⟨specifier⟩ ∧ t.isDirectory dir :=
    ⟨List.mem_of_find?_eq_some located, List.find?_some located⟩
  cases manifest : (l.findDirectory? t specifier).filter
      fun dir => t.isFile (dir / ⟨manifestName⟩) with
  | some dir =>
    obtain ⟨located, -⟩ := Option.filter_eq_some_iff.mp manifest
    obtain ⟨member, directory⟩ := candidate located
    exact .inl ⟨dir, member, directory, by simp only [find, manifest]⟩
  | none =>
    cases listed : catalog.templates.contains specifier with
    | true => exact .inr (.inl ⟨rfl, by simp only [find, manifest, listed, if_true]⟩)
    | false =>
      have kept : find t l catalog specifier =
          .directory ((l.findDirectory? t specifier).getD ⟨specifier⟩) := by
        simp only [find, manifest, listed, Bool.false_eq_true, if_false]
      cases located : l.findDirectory? t specifier with
      | some dir =>
        obtain ⟨member, directory⟩ := candidate located
        exact .inl ⟨dir, member, directory, by rw [kept, located, Option.getD_some]⟩
      | none => exact .inr (.inr ⟨rfl, rfl, by rw [kept, located, Option.getD_none]⟩)

/-- Where there is a manifest all the same, the specifier is relative and home is no root. -/
theorem Declares.elsewhere {l : Locator} {entry : Option String}
    (unlocated : l.findDirectory? t specifier = none) (declares : Declares t ⟨specifier⟩ entry) :
    Path.isAbsolute ⟨specifier⟩ = false ∧ ∀ root ∈ l.roots, ¬ t.IsHome root := by
  obtain ⟨place, opens⟩ := declares.opens
  have nowhere := List.find?_eq_none.mp unlocated
  have relative : Path.isAbsolute ⟨specifier⟩ = false := by
    refine Bool.eq_false_iff.mpr fun absolute => ?_
    have written : specifier.isEmpty = false := by
      rw [Bool.eq_false_iff]
      intro empty
      rw [String.isEmpty_iff.mp empty] at absolute
      exact absurd absolute (by decide)
    refine nowhere ⟨specifier⟩ ?_ (opens.isDirectory written)
    rw [Locator.candidates, if_pos absolute]
    exact List.mem_singleton_self _
  refine ⟨relative, fun root member home => ?_⟩
  have below := home.isDirectory_join relative opens
  refine nowhere _ ?_ below
  rw [Locator.candidates, if_neg (by simp [relative])]
  exact List.mem_map_of_mem member

/-- **A template that is not found fails to load, unless a manifest is there by chance.** The chance
is a manifest at the specifier as it is seen from home, which is none of the roots then. Whatever is
loaded comes from below the roots, from an absolute path, from the catalog, or from such a place. -/
theorem load_unresolved (desk : Desk σ) (l : Locator) (catalog : Catalog σ) (specifier : String) :
    (l.findDirectory? desk.files specifier = none → catalog.templates.contains specifier = false →
      ((∃ message, ((load catalog (find desk.files l catalog specifier)).run.run desk).1 =
          .error (.templateLoad specifier message)) ↔
        ∀ entry, ¬ Declares desk.files ⟨specifier⟩ entry)) ∧
    (∀ entry, l.findDirectory? desk.files specifier = none →
      Declares desk.files ⟨specifier⟩ entry →
        Path.isAbsolute ⟨specifier⟩ = false ∧ ∀ root ∈ l.roots, ¬ desk.files.IsHome root) ∧
    ∀ template,
      ((load catalog (find desk.files l catalog specifier)).run.run desk).1 = .ok template →
        (∃ dir ∈ l.candidates ⟨specifier⟩, desk.files.isDirectory dir ∧
          LoadsFrom desk catalog dir template) ∨
        catalog.template? desk specifier = some template ∨
        (l.findDirectory? desk.files specifier = none ∧
          catalog.templates.contains specifier = false ∧
            LoadsFrom desk catalog ⟨specifier⟩ template) := by
  obtain ⟨notes, log, ran⟩ := load_run catalog (find desk.files l catalog specifier) desk
  rw [ran]
  refine ⟨fun unlocated unlisted => ?_, fun _ => Declares.elsewhere, fun template loads => ?_⟩
  · have kept : find desk.files l catalog specifier = .directory ⟨specifier⟩ := by
      simp [find, unlocated, unlisted]
    rw [kept]
    constructor
    · rintro ⟨message, failed⟩ entry declares
      rw [loaded_of_declares declares] at failed
      split at failed <;> cases failed
    · exact loaded_of_not_declares catalog
  · rcases find_cases desk.files l catalog specifier with
      ⟨dir, member, directory, is⟩ | ⟨-, is⟩ | ⟨unlocated, unlisted, is⟩ <;> rw [is] at loads
    · exact .inl ⟨dir, member, directory, loadsFrom_of_loaded loads⟩
    · right
      left
      rw [loaded_builtin] at loads
      cases named : catalog.template? desk specifier <;> simp_all
    · exact .inr (.inr ⟨unlocated, unlisted, loadsFrom_of_loaded loads⟩)

/-! ### A manifest at home -/

def straying : String := "publish = \"templates/default\""

/-- A template at home. -/
def adrift : FileTree :=
  ⟨[(["t"], .directory), (["t", manifestName], .file (Text.encodeUtf8 straying))], []⟩

/-- Roots that are elsewhere. -/
def away : Locator := { workingDir := ⟨"w"⟩, root := ⟨"r"⟩ }

def supplied : Catalog Unit := .builtin

theorem declares_straying {t : FileTree} {place : Place}
    (node : t.node (dir / ⟨manifestName⟩) = .ok (place, .file (Text.encodeUtf8 straying))) :
    Declares t dir (some "templates/default") := by
  have decoded : Text.decodeUtf8 (Text.encodeUtf8 straying) = .ok straying := by
    have some : (Text.decodeUtf8 (Text.encodeUtf8 straying)).toOption = some straying := by
      decide +kernel
    cases ended : Text.decodeUtf8 (Text.encodeUtf8 straying) <;> rw [ended] at some <;> cases some
    rfl
  have read : t.readText (dir / ⟨manifestName⟩) = .ok straying := by
    simp only [FileTree.readText, FileTree.readBytes, node, bind, Except.bind, decoded]
  exact ⟨straying, read, by decide +kernel⟩

theorem adrift_declares : Declares adrift ⟨"t"⟩ (some "templates/default") := by
  have opens : adrift.Opens ⟨"t"⟩ ["t"] := by
    refine ⟨FileTree.linkLimit, ?_⟩
    show adrift.Enters _ [] ["t"] _ _
    exact .down rfl (by decide) rfl (.here rfl)
  have there : adrift.at? (["t"] ++ [manifestName]) = some (.file (Text.encodeUtf8 straying)) := rfl
  exact declares_straying (opens.node_file isEntry_manifestName there)

theorem adrift_isDirectory {p : Path} (written : p.text.isEmpty = false)
    (relative : p.isAbsolute = false) {name : String} (proper : FileTree.Proper name)
    (steps_eq : FileTree.steps p = [name, "t"]) (lost : adrift.at? [name] = none) :
    ¬ adrift.isDirectory p := by
  have walked : adrift.walk true FileTree.linkLimit [] [name, "t"] = .error .notFound := by
    rw [FileTree.walk]
    simp [proper.1, proper.2, lost]
  rw [FileTree.isDirectory_iff written, FileTree.origin, relative, steps_eq]
  rintro ⟨place, found⟩
  rw [if_neg Bool.false_ne_true, show adrift.home = [] from rfl, walked] at found
  cases found

/-- The template is not found, and yet it is loaded. -/
theorem loaded_from_home :
    away.findDirectory? adrift "t" = none ∧ supplied.templates.contains "t" = false ∧
      ((load supplied (find adrift away supplied "t")).run.run ⟨adrift, ()⟩).1 =
        .ok Site.template := by
  have unlocated : away.findDirectory? adrift "t" = none := by
    refine List.find?_eq_none.mpr ?_
    rw [Locator.candidates, if_neg (by decide)]
    simp only [Locator.roots, away, Option.toList_none, List.append_nil, List.cons_append,
      List.nil_append, List.map_cons, List.map_nil, List.forall_mem_cons]
    exact ⟨adrift_isDirectory rfl (by decide) (by decide) rfl rfl,
      adrift_isDirectory rfl (by decide) (by decide) rfl rfl, nofun⟩
  have unlisted : supplied.templates.contains "t" = false := by decide
  refine ⟨unlocated, unlisted, ?_⟩
  have kept : find adrift away supplied "t" = .directory ⟨"t"⟩ := by
    simp [find, unlocated, unlisted]
  obtain ⟨notes, log, ran⟩ := load_run supplied (.directory ⟨"t"⟩) ⟨adrift, ()⟩
  have declares : Declares (⟨adrift, ()⟩ : Desk Unit).files ⟨"t"⟩ (some "templates/default") :=
    adrift_declares
  rw [kept, ran, loaded_of_declares declares]
  rfl

end Template
end RefDoc
