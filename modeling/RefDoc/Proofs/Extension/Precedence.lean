import RefDoc.Proofs.Extension.Unresolved
import RefDoc.Proofs.Run.SelfCheck

/-!
# Manifests before the catalog

A specifier stands for the manifest in the first directory that it leads to, if that is a file, and
else for the entry of the catalog with its name. What comes of it is listed case by case, for
plugins (`ResolvedPlugin.Decided`) and for templates (`Template.Decided`), and both are loaded as
listed (`Locator.manifest_first`).
-/

namespace RefDoc

variable {σ : Type}

theorem FileTree.isFile_of_readText {t : FileTree} {p : Path} {text : String}
    (read : t.readText p = .ok text) : t.isFile p = true := by
  unfold readText readBytes at read
  unfold isFile
  rcases found : t.node p with e | ⟨place, node⟩
  · rw [found] at read
    cases read
  · cases node with
    | file => rfl
    | _ =>
      rw [found] at read
      cases read

/-! ### Plugins -/

namespace ResolvedPlugin

/-- The directory has a manifest in order for the plugin, with this entry. -/
def Declares (t : FileTree) (dir : Path) (basename entry : String) : Prop :=
  ∃ text, t.readText (pluginManifest dir basename) = .ok text ∧ entryOf? text = some entry

/-- The manifest in the directory names the plugin. -/
def LoadsFrom (desk : Desk σ) (catalog : Catalog σ) (dir : Path) (basename : String)
    (plugin : Plugin σ) : Prop :=
  ∃ entry, Declares desk.files dir basename entry ∧ catalog.plugin? desk entry = some plugin

/-- What has to come of a plugin, `found` being the directory for it. -/
structure Decided (desk : Desk σ) (catalog : Catalog σ) (specifier basename : String)
    (found : Option Path) (result : Option (Except Error (LoadedPlugin σ))) : Prop where
  listed : ∀ dir, found = some dir → desk.files.isFile (pluginManifest dir basename) = true →
    (∀ plugin, result = some (.ok ⟨specifier, plugin⟩) ↔
      LoadsFrom desk catalog dir basename plugin) ∧
    ((∀ plugin, ¬ LoadsFrom desk catalog dir basename plugin) →
      ∃ message, result = some (.error (.pluginLoad specifier message)))
  builtin :
    (∀ dir, found = some dir → desk.files.isFile (pluginManifest dir basename) = false) →
      ∀ plugin, catalog.plugin? desk specifier = some plugin →
        result = some (.ok ⟨specifier, plugin⟩)
  unlisted : ∀ dir, found = some dir → desk.files.isFile (pluginManifest dir basename) = false →
    catalog.plugin? desk specifier = none →
      ∃ message, result = some (.error (.pluginLoad specifier message))
  unknown : found = none → catalog.plugin? desk specifier = none → result = none

variable {desk : Desk σ} {t : FileTree} {l : Locator} {catalog : Catalog σ}
  {specifier basename entry : String} {dir : Path}

theorem loaded_of_declares (declares : Declares desk.files dir basename entry) :
    loaded catalog ⟨specifier, basename, .directory dir⟩ desk =
      match catalog.plugin? desk entry with
      | some plugin => .ok ⟨specifier, plugin⟩
      | none => .error (.pluginLoad specifier s!"no plugin implementation named \"{entry}\"") := by
  obtain ⟨text, read, given⟩ := declares
  have entered :
      ResolvedPlugin.entry desk.files ⟨specifier, basename, .directory dir⟩ = .ok entry := by
    simp only [ResolvedPlugin.entry, read, given]
  unfold loaded implementation
  rw [entered, Catalog.plugin?]
  cases named : catalog.plugins.get? entry <;>
    simp [named, Except.mapError, Except.map, bind, Except.bind]

theorem loaded_of_not_declares (catalog : Catalog σ) (specifier : String)
    (undeclared : ∀ entry, ¬ Declares desk.files dir basename entry) :
    ∃ message, loaded catalog ⟨specifier, basename, .directory dir⟩ desk =
      .error (.pluginLoad specifier message) := by
  have entered : ∃ message,
      ResolvedPlugin.entry desk.files ⟨specifier, basename, .directory dir⟩ = .error message := by
    cases read : desk.files.readText (pluginManifest dir basename) with
    | error e => exact ⟨_, by simp only [ResolvedPlugin.entry, read]; rfl⟩
    | ok text =>
      cases given : entryOf? text with
      | some entry => exact absurd ⟨text, read, given⟩ (undeclared entry)
      | none => exact ⟨_, by simp only [ResolvedPlugin.entry, read, given]; rfl⟩
  obtain ⟨message, entered⟩ := entered
  refine ⟨message, ?_⟩
  unfold loaded implementation
  rw [entered]
  rfl

theorem Declares.eq {entry' : String} (declares : Declares t dir basename entry)
    (declares' : Declares t dir basename entry') : entry' = entry := by
  obtain ⟨text, read, given⟩ := declares
  obtain ⟨text', read', given'⟩ := declares'
  obtain rfl : text = text' := Except.ok.inj (read.symm.trans read')
  exact Option.some.inj (given'.symm.trans given)

theorem loadsFrom_iff (declares : Declares desk.files dir basename entry) {plugin : Plugin σ} :
    LoadsFrom desk catalog dir basename plugin ↔ catalog.plugin? desk entry = some plugin := by
  constructor
  · rintro ⟨entry', declares', named⟩
    obtain rfl := declares.eq declares'
    exact named
  · exact fun named => ⟨entry, declares, named⟩

/-- A plugin is loaded from a directory exactly as the manifest says. -/
theorem loaded_directory (catalog : Catalog σ) (specifier : String) :
    (∀ plugin, loaded catalog ⟨specifier, basename, .directory dir⟩ desk = .ok ⟨specifier, plugin⟩ ↔
      LoadsFrom desk catalog dir basename plugin) ∧
    ((∀ plugin, ¬ LoadsFrom desk catalog dir basename plugin) →
      ∃ message, loaded catalog ⟨specifier, basename, .directory dir⟩ desk =
        .error (.pluginLoad specifier message)) := by
  by_cases declared : ∃ entry, Declares desk.files dir basename entry
  · obtain ⟨entry, declares⟩ := declared
    simp only [loadsFrom_iff declares, loaded_of_declares declares]
    cases named : catalog.plugin? desk entry with
    | some plugin => simp
    | none => simp
  · obtain ⟨message, failed⟩ :=
      loaded_of_not_declares catalog specifier (not_exists.mp declared)
    rw [failed]
    exact ⟨fun plugin => ⟨nofun, fun ⟨entry, declares, _⟩ => (declared ⟨entry, declares⟩).elim⟩,
      fun _ => ⟨message, rfl⟩⟩

theorem loaded_builtin {name : String} {plugin : Plugin σ}
    (known : catalog.plugin? desk name = some plugin) :
    loaded catalog ⟨specifier, basename, .builtin name⟩ desk = .ok ⟨specifier, plugin⟩ := by
  obtain ⟨factory, listed, rfl⟩ := Option.map_eq_some_iff.mp known
  simp [loaded, implementation, ResolvedPlugin.entry, listed, Except.mapError, Except.map, bind,
    Except.bind]

section Finding

variable (named : Path.fileName? ⟨specifier⟩ = some basename)

include named in
theorem find?_listed (found : l.findDirectory? t (Path.directoryName ⟨specifier⟩) = some dir)
    (file : t.isFile (pluginManifest dir basename) = true) :
    find? t l catalog specifier = some ⟨specifier, basename, .directory dir⟩ := by
  have listed : (l.findDirectory? t (Path.directoryName ⟨specifier⟩)).filter
      (fun dir => t.isFile (pluginManifest dir basename)) = some dir :=
    Option.filter_eq_some_iff.mpr ⟨found, file⟩
  simp only [find?, named, listed, Option.bind_eq_bind, Option.bind_some]
  rfl

include named in
/-- Without a manifest the catalog comes first, and then the directory. -/
theorem find?_bare (bare : ∀ dir, l.findDirectory? t (Path.directoryName ⟨specifier⟩) = some dir →
      t.isFile (pluginManifest dir basename) = false) :
    find? t l catalog specifier =
      (if catalog.plugins.contains specifier then some (Location.builtin specifier)
        else (l.findDirectory? t (Path.directoryName ⟨specifier⟩)).map .directory).map
          fun location => ⟨specifier, basename, location⟩ := by
  have none : (l.findDirectory? t (Path.directoryName ⟨specifier⟩)).filter
      (fun dir => t.isFile (pluginManifest dir basename)) = none :=
    Option.filter_eq_none_iff.mpr fun dir found => by simp [bare dir found]
  simp only [find?, named, none, Option.bind_eq_bind, Option.bind_some]
  split
  · rfl
  · cases l.findDirectory? t (Path.directoryName ⟨specifier⟩) <;> rfl

include named in
theorem decided (desk : Desk σ) (l : Locator) (catalog : Catalog σ) :
    Decided desk catalog specifier basename
      (l.findDirectory? desk.files (Path.directoryName ⟨specifier⟩))
      ((find? desk.files l catalog specifier).map fun p => ((p.load catalog).run.run desk).1) := by
  have ran (p : ResolvedPlugin) :
      ((p.load catalog).run.run desk).1 = p.loaded catalog desk := by
    obtain ⟨notes, log, ran⟩ := load_run catalog p desk
    rw [ran]
  simp only [ran]
  constructor
  case listed =>
    intro dir found file
    rw [find?_listed named found file]
    simpa using loaded_directory catalog specifier
  case builtin =>
    intro bare plugin known
    obtain ⟨factory, listed, -⟩ := Option.map_eq_some_iff.mp known
    rw [find?_bare named bare, if_pos (by simp [Table.contains, listed])]
    exact congrArg some (loaded_builtin known)
  case unlisted =>
    intro dir found bare unknown
    replace unknown := Option.map_eq_none_iff.mp unknown
    have bare' : ∀ other,
        l.findDirectory? desk.files (Path.directoryName ⟨specifier⟩) = some other →
          desk.files.isFile (pluginManifest other basename) = false := by
      rw [found]
      rintro _ ⟨⟩
      exact bare
    rw [find?_bare named bare', if_neg (by simp [Table.contains, unknown]), found]
    have undeclared (entry : String) : ¬ Declares desk.files dir basename entry := by
      rintro ⟨text, read, -⟩
      rw [FileTree.isFile_of_readText read] at bare
      cases bare
    obtain ⟨message, failed⟩ := loaded_of_not_declares catalog specifier undeclared
    exact ⟨message, congrArg some failed⟩
  case unknown =>
    intro found unknown
    replace unknown := Option.map_eq_none_iff.mp unknown
    rw [find?_bare named (by simp [found]), if_neg (by simp [Table.contains, unknown]), found]
    rfl

end Finding

end ResolvedPlugin

/-! ### Templates -/

namespace Template

/-- What has to come of a template, `found` being the directory for it. -/
structure Decided (desk : Desk σ) (catalog : Catalog σ) (specifier : String) (found : Option Path)
    (result : Except Error (Template σ)) : Prop where
  listed : ∀ dir, found = some dir → desk.files.isFile (dir / ⟨manifestName⟩) = true →
    (∀ template, result = .ok template ↔ LoadsFrom desk catalog dir template) ∧
    ((∀ entry, ¬ Declares desk.files dir entry) →
      ∃ message, result = .error (.templateLoad dir.text message)) ∧
    ∀ entry, Declares desk.files dir entry →
      (∀ template, ¬ LoadsFrom desk catalog dir template) → result = .error (.noEntryPoint dir.text)
  builtin : (∀ dir, found = some dir → desk.files.isFile (dir / ⟨manifestName⟩) = false) →
    ∀ template, catalog.template? desk specifier = some template → result = .ok template
  unlisted : ∀ dir, found = some dir → desk.files.isFile (dir / ⟨manifestName⟩) = false →
    catalog.template? desk specifier = none →
      ∃ message, result = .error (.templateLoad dir.text message)

variable {desk : Desk σ} {t : FileTree} {l : Locator} {catalog : Catalog σ} {specifier : String}
  {dir : Path} {entry : Option String}

theorem Declares.eq {entry' : Option String} (declares : Declares t dir entry)
    (declares' : Declares t dir entry') : entry' = entry := by
  obtain ⟨text, read, given⟩ := declares
  obtain ⟨text', read', given'⟩ := declares'
  obtain rfl : text = text' := Except.ok.inj (read.symm.trans read')
  exact Option.some.inj (given'.symm.trans given)

theorem loadsFrom_iff (declares : Declares desk.files dir entry) {template : Template σ} :
    LoadsFrom desk catalog dir template ↔ entry.bind (catalog.template? desk) = some template := by
  constructor
  · rintro ⟨name, declares', named⟩
    obtain rfl := declares.eq declares'
    exact named
  · intro named
    obtain ⟨name, rfl, named⟩ := Option.bind_eq_some_iff.mp named
    exact ⟨name, declares, named⟩

theorem loaded_directory (desk : Desk σ) (catalog : Catalog σ) (dir : Path) :
    let result := loaded catalog (.directory dir) desk
    (∀ template, result = .ok template ↔ LoadsFrom desk catalog dir template) ∧
      ((∀ entry, ¬ Declares desk.files dir entry) →
        ∃ message, result = .error (.templateLoad dir.text message)) ∧
      ∀ entry, Declares desk.files dir entry →
        (∀ template, ¬ LoadsFrom desk catalog dir template) →
          result = .error (.noEntryPoint dir.text) := by
  intro result
  by_cases declared : ∃ entry, Declares desk.files dir entry
  · obtain ⟨entry, declares⟩ := declared
    have loads : result = _ := loaded_of_declares declares
    simp only [loadsFrom_iff declares, loads]
    refine ⟨fun template => ?_, fun undeclared => (undeclared entry declares).elim,
      fun _ _ unknown => ?_⟩
    · cases entry.bind (catalog.template? desk) <;> simp
    · cases named : entry.bind (catalog.template? desk) with
      | none => rfl
      | some template => exact absurd named (unknown template)
  · have undeclared := not_exists.mp declared
    obtain ⟨message, failed⟩ := loaded_of_not_declares catalog undeclared
    have fails : result = _ := failed
    rw [fails]
    exact ⟨fun template => ⟨nofun, fun ⟨name, declares, _⟩ => (undeclared _ declares).elim⟩,
      fun _ => ⟨message, rfl⟩, fun entry declares => (undeclared entry declares).elim⟩

theorem find_listed (found : l.findDirectory? t specifier = some dir)
    (file : t.isFile (dir / ⟨manifestName⟩) = true) :
    find t l catalog specifier = .directory dir := by
  have listed : (l.findDirectory? t specifier).filter
      (fun dir => t.isFile (dir / ⟨manifestName⟩)) = some dir :=
    Option.filter_eq_some_iff.mpr ⟨found, file⟩
  simp only [find, listed]

/-- Without a manifest the catalog comes first, and then the directory. -/
theorem find_bare (bare : ∀ dir, l.findDirectory? t specifier = some dir →
      t.isFile (dir / ⟨manifestName⟩) = false) :
    find t l catalog specifier =
      if catalog.templates.contains specifier then .builtin specifier
      else .directory ((l.findDirectory? t specifier).getD ⟨specifier⟩) := by
  have none : (l.findDirectory? t specifier).filter
      (fun dir => t.isFile (dir / ⟨manifestName⟩)) = none :=
    Option.filter_eq_none_iff.mpr fun dir found => by simp [bare dir found]
  simp only [find, none]

theorem decided (desk : Desk σ) (l : Locator) (catalog : Catalog σ) (specifier : String) :
    Decided desk catalog specifier (l.findDirectory? desk.files specifier)
      ((load catalog (find desk.files l catalog specifier)).run.run desk).1 := by
  obtain ⟨notes, log, ran⟩ := load_run catalog (find desk.files l catalog specifier) desk
  rw [ran]
  constructor
  case listed =>
    intro dir found file
    rw [find_listed found file]
    exact loaded_directory desk catalog dir
  case builtin =>
    intro bare template known
    obtain ⟨factory, listed, -⟩ := Option.map_eq_some_iff.mp known
    rw [find_bare bare, if_pos (by simp [Table.contains, listed]), loaded_builtin, known]
  case unlisted =>
    intro dir found bare unknown
    have undeclared (entry : Option String) : ¬ Declares desk.files dir entry := by
      rintro ⟨text, read, -⟩
      rw [FileTree.isFile_of_readText read] at bare
      cases bare
    have bare' : ∀ other, l.findDirectory? desk.files specifier = some other →
        desk.files.isFile (other / ⟨manifestName⟩) = false := by
      rw [found]
      rintro _ ⟨⟩
      exact bare
    replace unknown := Option.map_eq_none_iff.mp unknown
    rw [find_bare bare', if_neg (by simp [Table.contains, unknown]), found, Option.getD_some]
    exact (loaded_directory desk catalog dir).2.1 undeclared

end Template

/-- **Only a manifest comes before the catalog.** A specifier with a file name is loaded from the
manifest in the first directory for it if that is a file, and from the catalog if not. -/
theorem Locator.manifest_first (desk : Desk σ) (l : Locator) (catalog : Catalog σ)
    {specifier basename : String} (named : Path.fileName? ⟨specifier⟩ = some basename) :
    ResolvedPlugin.Decided desk catalog specifier basename
      (l.findDirectory? desk.files (Path.directoryName ⟨specifier⟩))
      ((ResolvedPlugin.find? desk.files l catalog specifier).map fun p =>
        ((p.load catalog).run.run desk).1) ∧
    Template.Decided desk catalog specifier (l.findDirectory? desk.files specifier)
      ((Template.load catalog (Template.find desk.files l catalog specifier)).run.run desk).1 :=
  ⟨ResolvedPlugin.decided named desk l catalog, Template.decided desk l catalog specifier⟩

/-! ### A manifest under the name of a template -/

namespace Template

/-- A directory with the name of a template of the catalog, whose manifest names the other one. -/
def overlay : FileTree :=
  ⟨[(["w"], .directory), (["w", "templates"], .directory),
    (["w", "templates", "haruki"], .directory),
    (["w", "templates", "haruki", manifestName], .file (Text.encodeUtf8 straying))], []⟩

theorem manifest_first_overlay :
    Path.fileName? ⟨"templates/haruki"⟩ = some "haruki" ∧
      supplied.templates.contains "templates/haruki" = true ∧
      ((load supplied (find overlay away supplied "templates/haruki")).run.run ⟨overlay, ()⟩).1 =
        .ok Site.template := by
  have named : Path.fileName? ⟨"templates/haruki"⟩ = some "haruki" := by decide
  have opens : overlay.Opens ⟨"w/templates/haruki"⟩ ["w", "templates", "haruki"] := by
    refine ⟨FileTree.linkLimit, ?_⟩
    show overlay.Enters _ [] ["w", "templates", "haruki"] _ _
    exact .down rfl (by decide) rfl
      (.down rfl (by decide) rfl (.down rfl (by decide) rfl (.here rfl)))
  have directory : overlay.isDirectory ⟨"w/templates/haruki"⟩ = true := opens.isDirectory rfl
  have found : away.findDirectory? overlay "templates/haruki" = some ⟨"w/templates/haruki"⟩ :=
    List.find?_cons_of_pos directory
  have there : overlay.at? (["w", "templates", "haruki"] ++ [manifestName]) =
      some (.file (Text.encodeUtf8 straying)) := rfl
  have node := opens.node_file isEntry_manifestName there
  have file : overlay.isFile (⟨"w/templates/haruki"⟩ / ⟨manifestName⟩) = true := by
    simp only [FileTree.isFile, node]
  have loads : LoadsFrom ⟨overlay, ()⟩ supplied ⟨"w/templates/haruki"⟩ Site.template :=
    ⟨_, declares_straying node, rfl⟩
  exact ⟨named, by decide, ((Locator.manifest_first ⟨overlay, ()⟩ away supplied named).2.listed _
    found file).1 _ |>.mpr loads⟩

end Template

end RefDoc
