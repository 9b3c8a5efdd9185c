import RefDoc.Proofs.Template.Site

/-!
# Elements of the index

The index has an element for each visible doclet that belongs to no other or to a visible one that
belongs to none (`Site.Shown`), and the readme aside it has no other (`Template.publish_shows`). A
visible member of a member is not there (`Template.member_of_member`).
-/

namespace RefDoc

open FileTree Text

namespace Site

/-- A visible doclet that belongs to none, or to a visible one that belongs to none. -/
structure Shown (all : Collection) (d : Doclet) : Prop where
  member : d ∈ all.doclets
  visible : d.isVisible = true
  near : d.memberOf = none ∨
    ∃ p ∈ all.doclets, p.isVisible = true ∧ p.memberOf = none ∧ d.memberOf = some p.longname

/-- There is a section for every kind but packages, which are not visible. -/
theorem section_of_visible {d : Doclet} (visible : d.isVisible = true) :
    ∃ s ∈ sections, s.1 = d.kind := by
  have covered (kind : Kind) (other : kind ≠ .package) : ∃ s ∈ sections, s.1 = kind := by
    cases kind with
    | package => exact absurd rfl other
    | _ => decide
  refine covered d.kind fun package => ?_
  simp [Doclet.isVisible, package] at visible

theorem mem_topLevel {all : Collection} {kind : Kind} {d : Doclet} :
    d ∈ topLevel all kind ↔
      d ∈ all.doclets ∧ d.kind = kind ∧ d.memberOf = none ∧ d.isVisible = true := by
  simp [topLevel, and_assoc]

theorem mem_visibleMembers {all : Collection} {p d : Doclet} :
    d ∈ visibleMembers all p ↔
      d ∈ all.doclets ∧ d.memberOf = some p.longname ∧ d.isVisible = true := by
  simp only [visibleMembers, Collection.membersOf, List.mem_filter, beq_iff_eq, and_assoc]

theorem mem_shown {all : Collection} {d : Doclet} : d ∈ shown all ↔ Shown all d := by
  constructor
  · intro there
    obtain ⟨s, -, there⟩ := List.mem_flatMap.mp there
    obtain ⟨p, top, there⟩ := List.mem_flatMap.mp there
    obtain ⟨member, -, alone, visible⟩ := mem_topLevel.mp top
    rcases List.mem_cons.mp there with rfl | there
    · exact ⟨member, visible, .inl alone⟩
    · obtain ⟨member', of, visible'⟩ := mem_visibleMembers.mp there
      exact ⟨member', visible', .inr ⟨p, member, visible, alone, of⟩⟩
  · rintro ⟨member, visible, near⟩
    have below {p : Doclet} (member_p : p ∈ all.doclets) (visible_p : p.isVisible = true)
        (alone : p.memberOf = none) (there : d ∈ p :: visibleMembers all p) : d ∈ shown all := by
      obtain ⟨s, listed, kind⟩ := section_of_visible visible_p
      exact List.mem_flatMap.mpr ⟨s, listed, List.mem_flatMap.mpr
        ⟨p, mem_topLevel.mpr ⟨member_p, kind.symm, alone, visible_p⟩, there⟩⟩
    rcases near with alone | ⟨p, member_p, visible_p, alone, of⟩
    · exact below member visible alone List.mem_cons_self
    · exact below member_p visible_p alone
        (List.mem_cons_of_mem _ (mem_visibleMembers.mpr ⟨member, of, visible⟩))

end Site

namespace Template

variable {σ : Type}

/-- **The index has an element for whoever is shown**, and the readme aside no other. So all visible
doclets have one exactly if each is shown, or has the longname of one that is. -/
theorem publish_shows (all : Collection) (options : Options) (tutorials : TutorialTree)
    (desk : Desk σ) {made : FileTree}
    (done : desk.files.makeDirectories options.outputDir = .ok made)
    (unlinked : ∀ p ∈ Site.pages all options tutorials,
      made.linkTarget? (p.draft options.outputDir) = none) :
    let run := ((Site.template : Template σ).publish all options tutorials).run.run desk
    let hasElement (index : String) (d : Doclet) := escapeMarkup d.longname ∈ values "id" index
    run.1 = .ok () →
      ∃ index, made.HasFile run.2.1.files (options.outputDir / ⟨"index.html"⟩) index ∧
        (∀ d, Site.Shown all d → hasElement index d) ∧
        (options.readmeHtml = none →
          (∀ id ∈ values "id" index, ∃ d, Site.Shown all d ∧ id = escapeMarkup d.longname) ∧
          ((∀ d ∈ all.doclets, d.isVisible = true → hasElement index d) ↔
            ∀ d ∈ all.doclets, d.isVisible = true →
              ∃ d', Site.Shown all d' ∧ d'.longname = d.longname)) := by
  intro run hasElement ok
  refine ⟨_, Site.publish_index done unlinked ok, fun d there => ?_, fun none => ?_⟩
  · exact (Site.ids_suffix all options tutorials).subset
      (List.mem_map.mpr ⟨d, Site.mem_shown.mpr there, rfl⟩)
  · have has_iff (d : Doclet) : hasElement (Site.index all options tutorials) d ↔
        ∃ d', Site.Shown all d' ∧ d'.longname = d.longname := by
      show _ ∈ _ ↔ _
      simp only [Site.ids_index none, List.mem_map, escapeMarkup_inj, Site.mem_shown]
    refine ⟨fun id there => ?_, forall₃_congr fun d _ _ => has_iff d⟩
    rw [Site.ids_index none] at there
    obtain ⟨d, shown, rfl⟩ := List.mem_map.mp there
    exact ⟨d, Site.mem_shown.mp shown, rfl⟩

/-- A class with a member, and one that no one has documented. -/
def gallery : Collection :=
  .ofList [Doclet.named "Circle" .classType,
    (Doclet.named "radius" .member).setMemberOf "Circle" .onInstance,
    { Doclet.named "Draft" .classType with undocumented := true }]

theorem publish_shows_gallery :
    let dir : Path := Options.outputDir {}
    let run := ((Site.template : Template Unit).publish gallery {} default).run.run ⟨bare, ()⟩
    bare.makeDirectories dir = .ok bare ∧
      (∀ p ∈ Site.pages gallery {} default, bare.linkTarget? (p.draft dir) = none) ∧
      run.1 = .ok () ∧
      ∃ index, bare.HasFile run.2.1.files (dir / ⟨"index.html"⟩) index ∧
        ∀ d ∈ gallery.doclets, d.isVisible = true →
          escapeMarkup d.longname ∈ values "id" index := by
  intro dir run
  obtain ⟨done, unlinked, ok⟩ := Site.publish_bare () gallery default
  obtain ⟨index, holds, -, iff⟩ := publish_shows gallery {} default ⟨bare, ()⟩ done unlinked ok
  have shown : ∀ d ∈ gallery.doclets, d.isVisible = true → d ∈ Site.shown gallery := by decide
  exact ⟨done, unlinked, ok, index, holds, (iff rfl).2.mpr fun d member visible =>
    ⟨d, Site.mem_shown.mp (shown d member visible), rfl⟩⟩

/-- A namespace with a class that has a method. -/
def nested : Collection :=
  .ofList [Doclet.named "A" .namespaceUnit, (Doclet.named "B" .classType).setMemberOf "A" .static,
    (Doclet.named "m" .function).setMemberOf "A.B" .onInstance]

/-- The method has no element. -/
theorem member_of_member :
    let run := ((Site.template : Template Unit).publish nested {} default).run.run ⟨bare, ()⟩
    (∀ d ∈ nested.doclets, ∀ parent ∈ d.memberOf,
      (∃ p ∈ nested.doclets, p.longname = parent ∧ p.isVisible = true) ∧
        parent.length < d.longname.length) ∧
      bare.makeDirectories (Options.outputDir {}) = .ok bare ∧ run.1 = .ok () ∧
      ∃ d ∈ nested.doclets, d.isVisible = true ∧
        ∀ index, bare.HasFile run.2.1.files (Options.outputDir {} / ⟨"index.html"⟩) index →
          escapeMarkup d.longname ∉ values "id" index := by
  intro run
  obtain ⟨done, unlinked, ok⟩ := Site.publish_bare () nested default
  let method := (Doclet.named "m" .function).setMemberOf "A.B" .onInstance
  refine ⟨by decide, done, ok, method, by decide, by decide, fun index holds => ?_⟩
  rw [holds.unique (Site.publish_index done unlinked ok), Site.ids_index rfl]
  decide

end Template

end RefDoc
