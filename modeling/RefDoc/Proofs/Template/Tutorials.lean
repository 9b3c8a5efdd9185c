import RefDoc.Proofs.Template.Site

/-!
# Pages of tutorials

Tutorials whose names are `Site.Alike` share a file, which holds the page of the last of them, and
the index links them all to it (`Template.publish_tutorials`). So a page is lost exactly where two
such tutorials have different titles or texts (`Template.shared_file`).
-/

namespace RefDoc

open FileTree Text

namespace Site

open TutorialTree

/-- The names differ in nothing but characters that become underscores. -/
def Alike (name name' : String) : Prop := name.toList.map safeChar = name'.toList.map safeChar

instance (name name' : String) : Decidable (Alike name name') :=
  inferInstanceAs (Decidable (_ = _))

theorem tutorialFile_eq_iff {name name' : String} :
    tutorialFile name = tutorialFile name' ↔ Alike name name' := by
  rw [← String.toList_inj, toList_tutorialFile, toList_tutorialFile, List.append_cancel_left_eq,
    List.append_cancel_right_eq, Alike]

theorem tutorialFile_ne_index (name : String) : tutorialFile name ≠ "index.html" := by
  rw [ne_eq, ← String.toList_inj, toList_tutorialFile]
  exact fun same => absurd (List.cons.inj same).1 (by decide)

theorem publish_alike {σ : Type} {all : Collection} {options : Options} {tutorials : TutorialTree}
    {desk : Desk σ} {made : FileTree} {t : TutorialTree}
    (done : desk.files.makeDirectories options.outputDir = .ok made)
    (unlinked : ∀ p ∈ pages all options tutorials,
      made.linkTarget? (p.draft options.outputDir) = none)
    (member : t ∈ nodesAmong tutorials.children) :
    let run := ((template : Template σ).publish all options tutorials).run.run desk
    run.1 = .ok () →
      ∃ front last behind, nodesAmong tutorials.children = front ++ last :: behind ∧
        Alike last.name t.name ∧ (∀ t' ∈ behind, ¬ Alike t'.name t.name) ∧
        made.HasFile run.2.1.files (options.outputDir / ⟨tutorialFile t.name⟩)
          (page last.title last.content) := by
  intro run ok
  have itself : Alike t.name t.name := rfl
  obtain ⟨front, last, behind, split, alike, other⟩ :=
    exists_last (P := fun t' => Alike t'.name t.name) member itself
  refine ⟨front, last, behind, split, alike, other, ?_⟩
  have split_pages : pages all options tutorials = front.map tutorialPage ++
      ⟨tutorialFile last.name, page last.title last.content⟩ ::
        (behind.map tutorialPage ++ [⟨"index.html", index all options tutorials⟩]) := by
    rw [pages_eq, split, List.map_append, List.append_assoc]
    rfl
  rw [← tutorialFile_eq_iff.mpr alike]
  refine publish_last done unlinked split_pages (fun p member => ?_) ok
  rcases List.mem_append.mp member with member | member
  · obtain ⟨t', behind', rfl⟩ := List.mem_map.mp member
    exact fun same => other t' behind' ((tutorialFile_eq_iff.mp same).trans alike)
  · obtain rfl := List.mem_singleton.mp member
    exact (tutorialFile_ne_index last.name).symm

end Site

namespace Template

open TutorialTree

variable {σ : Type}

/-- **A file holds the page of the last tutorial whose name is written so**, and the index links to
it. So every tutorial has its own page exactly if tutorials with names that are written alike have
the same title and text. -/
theorem publish_tutorials (all : Collection) (options : Options) (tutorials : TutorialTree)
    (desk : Desk σ) {made : FileTree}
    (done : desk.files.makeDirectories options.outputDir = .ok made)
    (unlinked : ∀ p ∈ Site.pages all options tutorials,
      made.linkTarget? (p.draft options.outputDir) = none) :
    let run := ((Site.template : Template σ).publish all options tutorials).run.run desk
    let holds (file text : String) :=
      made.HasFile run.2.1.files (options.outputDir / ⟨file⟩) text
    let nodes := nodesAmong tutorials.children
    run.1 = .ok () →
      (∃ index, holds "index.html" index ∧
        nodes.map (fun t => Site.tutorialFile t.name) <:+ values "href" index) ∧
      (∀ t ∈ nodes, ∃ front last behind, nodes = front ++ last :: behind ∧
        Site.Alike last.name t.name ∧ (∀ t' ∈ behind, ¬ Site.Alike t'.name t.name) ∧
        holds (Site.tutorialFile t.name) (Site.page last.title last.content)) ∧
      ((∀ t ∈ nodes, holds (Site.tutorialFile t.name) (Site.page t.title t.content)) ↔
        ∀ t ∈ nodes, ∀ t' ∈ nodes, Site.Alike t.name t'.name →
          t.title = t'.title ∧ t.content = t'.content) := by
  intro run holds nodes ok
  refine ⟨⟨_, Site.publish_index done unlinked ok, Site.hrefs_index all options tutorials⟩,
    fun t member => Site.publish_alike done unlinked member ok, ?_⟩
  constructor
  · intro own t member t' member' alike
    have same := own t member
    rw [Site.tutorialFile_eq_iff.mpr alike] at same
    exact Site.page_inj.mp (same.unique (own t' member'))
  · intro same t member
    obtain ⟨front, last, behind, split, alike, -, held⟩ :=
      Site.publish_alike done unlinked member ok
    have within : last ∈ nodesAmong tutorials.children := by
      rw [split]
      exact List.mem_append_right _ (.head _)
    obtain ⟨title, content⟩ := same last within t member alike
    rwa [title, content] at held

/-- Three tutorials, two of them with names that are nearly alike. -/
def course : TutorialTree :=
  .root [⟨"guide", "Guide", "<p>G</p>\n", [⟨"first steps", "First steps", "<p>F</p>\n", []⟩]⟩,
    ⟨"first-steps", "More steps", "", []⟩]

theorem publish_tutorials_course :
    let dir : Path := Options.outputDir {}
    let run := ((Site.template : Template Unit).publish .empty {} course).run.run ⟨bare, ()⟩
    bare.makeDirectories dir = .ok bare ∧
      (∀ p ∈ Site.pages .empty {} course, bare.linkTarget? (p.draft dir) = none) ∧
      run.1 = .ok () ∧
      ∀ t ∈ nodesAmong course.children,
        bare.HasFile run.2.1.files (dir / ⟨Site.tutorialFile t.name⟩)
          (Site.page t.title t.content) := by
  intro dir run
  obtain ⟨done, unlinked, ok⟩ := Site.publish_bare () .empty course
  have held := publish_tutorials .empty {} course ⟨bare, ()⟩ done unlinked ok
  exact ⟨done, unlinked, ok, held.2.2.mpr (by decide)⟩

/-- Two tutorials whose names differ in a blank and a dot. -/
def twins : TutorialTree :=
  .root [⟨"a b", "One", "<p>1</p>\n", []⟩, ⟨"a.b", "Two", "<p>2</p>\n", []⟩]

/-- The page of the first is lost. -/
theorem shared_file :
    let dir : Path := Options.outputDir {}
    let run := ((Site.template : Template Unit).publish .empty {} twins).run.run ⟨bare, ()⟩
    let nodes := nodesAmong twins.children
    (nodes.map (·.name)).Nodup ∧ bare.makeDirectories dir = .ok bare ∧ run.1 = .ok () ∧
      ∃ t ∈ nodes, ¬ bare.HasFile run.2.1.files (dir / ⟨Site.tutorialFile t.name⟩)
        (Site.page t.title t.content) := by
  intro dir run nodes
  obtain ⟨done, unlinked, ok⟩ := Site.publish_bare () .empty twins
  have split : Site.pages .empty {} twins =
      [⟨Site.tutorialFile "a b", Site.page "One" "<p>1</p>\n"⟩] ++
        ⟨Site.tutorialFile "a.b", Site.page "Two" "<p>2</p>\n"⟩ ::
          [⟨"index.html", Site.index .empty {} twins⟩] := by
    rw [Site.pages_eq]
    rfl
  have held := Site.publish_last done unlinked split
    (List.forall_mem_singleton.mpr (Site.tutorialFile_ne_index _).symm) ok
  refine ⟨by decide, done, ok, ⟨"a b", "One", "<p>1</p>\n", []⟩, .head _, fun lost => ?_⟩
  rw [Site.tutorialFile_eq_iff.mpr (by decide : Site.Alike "a b" "a.b")] at lost
  exact absurd (Site.page_inj.mp (lost.unique held)).1 (by decide)

end Template

end RefDoc
