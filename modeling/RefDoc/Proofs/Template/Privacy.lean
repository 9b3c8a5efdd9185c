import RefDoc.Proofs.Doclet.Index
import RefDoc.Template.Builtin

/-!
# Private doclets stay private

A built-in template looks at doclets through filters only: the sections, the lists of members and
the trees of symbols. Each of them lets through no private doclet but a package, so that removing
the private doclets beforehand (`Collection.withoutPrivate`) changes nothing that is written.
-/

namespace RefDoc

/-- Whether the doclet has a part in what is published: it is not private, or it is a package. -/
def Doclet.isPublished (d : Doclet) : Bool := d.kind == .package || !d.isPrivate

theorem Doclet.isPublished_of_not_private {d : Doclet} (h : d.isPrivate = false) :
    d.isPublished = true := by
  simp [isPublished, h]

theorem Doclet.isPublished_of_visible {d : Doclet} (h : d.isVisible = true) :
    d.isPublished = true := by
  simp only [isVisible, Bool.and_eq_true, Bool.not_eq_true'] at h
  exact isPublished_of_not_private h.1.2

theorem Doclet.isPublished_of_package {d : Doclet} (h : (d.kind == .package) = true) :
    d.isPublished = true := by
  simp [isPublished, h]

namespace Collection

/-- The collection with every private doclet removed that is not a package. -/
def withoutPrivate (c : Collection) : Collection := ofList (c.doclets.filter (·.isPublished))

variable (c : Collection)

/-- A filter that passes published doclets only does not see the removal. -/
theorem filter_withoutPrivate {p : Doclet → Bool} (h : ∀ d, p d = true → d.isPublished = true) :
    c.withoutPrivate.doclets.filter p = c.doclets.filter p := by
  rw [withoutPrivate, doclets_ofList, List.filter_filter]
  refine List.filter_congr fun d _ => ?_
  cases hp : p d with
  | false => rfl
  | true => simp [h d hp]

theorem find?_withoutPrivate {p : Doclet → Bool} (h : ∀ d, p d = true → d.isPublished = true) :
    c.withoutPrivate.doclets.find? p = c.doclets.find? p := by
  rw [← List.head?_filter, ← List.head?_filter, filter_withoutPrivate c h]

theorem filter_membersOf_withoutPrivate {p : Doclet → Bool}
    (h : ∀ d, p d = true → d.isPublished = true) (parent : String) :
    (c.withoutPrivate.membersOf parent).filter p = (c.membersOf parent).filter p := by
  simp only [membersOf, List.filter_filter]
  refine filter_withoutPrivate c fun d hd => h d ?_
  exact (Bool.and_eq_true_iff.1 hd).1

end Collection

/-! ### The site -/

namespace Site

variable (c : Collection)

theorem article_withoutPrivate (d : Doclet) : article c.withoutPrivate d = article c d := by
  unfold article
  rw [c.filter_membersOf_withoutPrivate fun _ => Doclet.isPublished_of_visible]

theorem topLevel_withoutPrivate (kind : Kind) :
    topLevel c.withoutPrivate kind = topLevel c kind := by
  unfold topLevel
  refine c.filter_withoutPrivate fun d h => ?_
  exact Doclet.isPublished_of_visible (Bool.and_eq_true_iff.1 h).2

theorem sectionText_withoutPrivate (s : Kind × String) :
    sectionText c.withoutPrivate s = sectionText c s := by
  have articles : article c.withoutPrivate = article c := funext (article_withoutPrivate c)
  unfold sectionText
  rw [topLevel_withoutPrivate, articles]

theorem title_withoutPrivate : title c.withoutPrivate = title c := by
  unfold title
  rw [c.find?_withoutPrivate fun d h => ?_]
  exact Doclet.isPublished_of_package (Bool.and_eq_true_iff.1 h).1

theorem pages_withoutPrivate (options : Options) (tutorials : TutorialTree) :
    pages c.withoutPrivate options tutorials = pages c options tutorials := by
  have sections : sectionText c.withoutPrivate = sectionText c :=
    funext (sectionText_withoutPrivate c)
  unfold pages body
  rw [title_withoutPrivate, sections]

end Site

/-! ### The symbol tree -/

namespace SymbolTree

variable (c : Collection)

/-- By induction on the depth: at each level the same members are followed. -/
theorem under_withoutPrivate (depth : Nat) (longname : String) :
    under c.withoutPrivate depth longname = under c depth longname := by
  induction depth generalizing longname with
  | zero => rfl
  | succ depth ih =>
    have members := c.filter_membersOf_withoutPrivate (p := fun d => !d.isPrivate)
      (fun _ h => Doclet.isPublished_of_not_private (Bool.not_eq_true' _ ▸ h)) longname
    simp only [under, members, ih]

theorem ofCollection_withoutPrivate : ofCollection c.withoutPrivate = ofCollection c := by
  have top := c.filter_withoutPrivate
    (p := fun d => d.kind != .package && d.memberOf.isNone && !d.isPrivate)
    fun _ h => Doclet.isPublished_of_not_private
      (Bool.not_eq_true' _ ▸ (Bool.and_eq_true_iff.1 h).2)
  simp only [ofCollection, top, under_withoutPrivate]

theorem document_withoutPrivate (tutorials : TutorialTree) :
    document c.withoutPrivate tutorials = document c tutorials := by
  have package := c.find?_withoutPrivate (p := fun d => d.kind == .package)
    fun _ => Doclet.isPublished_of_package
  simp only [document, package, ofCollection_withoutPrivate]

end SymbolTree

namespace Template

variable {σ : Type}

theorem ofPages_congr {label : String} {pages : Collection → Options → TutorialTree → List Page}
    {c c' : Collection} {options : Options} {tutorials : TutorialTree}
    (h : pages c options tutorials = pages c' options tutorials) :
    (ofPages label pages : Template σ).publish c options tutorials =
      (ofPages label pages : Template σ).publish c' options tutorials := by
  simp only [ofPages, h]

theorem eq_of_builtin {name : String} {template : Template σ}
    (h : builtin.get? name = some template) :
    template = Site.template ∨ template = SymbolTree.template := by
  have listed := Table.mem_of_get?_ofList h
  simp only [List.mem_cons, Prod.mk.injEq, List.not_mem_nil, or_false] at listed
  rcases listed with ⟨-, rfl⟩ | ⟨-, rfl⟩
  · exact .inl rfl
  · exact .inr rfl

/-- **Private doclets have no influence on what a built-in template writes.** From any desk,
publishing without them ends alike: with the same result, the same files and the same log. -/
theorem publish_withoutPrivate (name : String) (template : Template σ)
    (registered : builtin.get? name = some template) (c : Collection) (options : Options)
    (tutorials : TutorialTree) (desk : Desk σ) :
    (template.publish c.withoutPrivate options tutorials).run.run desk =
      (template.publish c options tutorials).run.run desk := by
  rcases eq_of_builtin registered with rfl | rfl
  · exact congrArg (·.run.run desk)
      (ofPages_congr (Site.pages_withoutPrivate c options tutorials))
  · refine congrArg (·.run.run desk) (ofPages_congr ?_)
    rw [SymbolTree.document_withoutPrivate]

/-- A private class with a public member, and a public one with a private member. -/
def guarded : Collection :=
  Collection.ofList [{ Doclet.named "Key" .classType with access := some .privateAccess },
    (Doclet.named "turn" .function).setMemberOf "Key" .onInstance,
    Doclet.named "Lock" .classType,
    { Doclet.named "pins" .member with access := some .privateAccess }.setMemberOf "Lock" .inner]

theorem publish_guarded :
    guarded.withoutPrivate.doclets.map (·.longname) = ["Key#turn", "Lock"] ∧
      (SymbolTree.template.publish guarded.withoutPrivate {} default).run.run
          ⟨⟨[], []⟩, ()⟩ =
        (SymbolTree.template.publish guarded {} default).run.run ⟨⟨[], []⟩, ()⟩ :=
  ⟨rfl, publish_withoutPrivate "templates/haruki" SymbolTree.template rfl guarded {} default _⟩

end Template

end RefDoc
