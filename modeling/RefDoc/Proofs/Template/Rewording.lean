import Mathlib.Data.List.Forall2
import RefDoc.Proofs.FileTree.Alike
import RefDoc.Proofs.Template.Site

/-!
# The site in other words

A collection may be put in other words: other names and longnames, other descriptions and
summaries, whatever characters they have. As long as the same doclets belong to the same ones and
the same texts are there, the index has the same markup (`Site.sameMarkup_index`), and publishing
leaves trees that are alike (`Site.publish_reworded`).
-/

namespace RefDoc

open FileTree Text

/-! ### Markup -/

namespace Text

/-- What delimits tags and values. -/
def delimiters : List Char := ['<', '>', '"', '\x27']

/-- Both texts have as many of each delimiter. -/
def SameMarkup (s s' : String) : Prop := ∀ c ∈ delimiters, s.toList.count c = s'.toList.count c

instance (s s' : String) : Decidable (SameMarkup s s') := List.decidableBAll _ _

theorem not_mem_escapeMarkup (s : String) {c : Char} (delimits : c ∈ delimiters) :
    c ∉ (escapeMarkup s).toList := by
  rw [escapeMarkup, String.toList_ofList, List.mem_flatMap]
  rintro ⟨d, -, member⟩
  revert c
  unfold escapeMarkupChar delimiters
  split
  all_goals simp_all [eq_comm]

namespace SameMarkup

variable {s s' u u' : String}

theorem refl (s : String) : SameMarkup s s := fun _ _ => rfl

theorem append (first : SameMarkup s s') (second : SameMarkup u u') :
    SameMarkup (s ++ u) (s' ++ u') := by
  intro c delimits
  rw [String.toList_append, String.toList_append, List.count_append, List.count_append,
    first c delimits, second c delimits]

theorem within (front back : String) (inner : SameMarkup s s') :
    SameMarkup (front ++ s ++ back) (front ++ s' ++ back) :=
  ((refl front).append inner).append (refl back)

/-- **Escaped text is no markup**, whatever it says. -/
theorem escaped (s s' : String) : SameMarkup (escapeMarkup s) (escapeMarkup s') := by
  intro c delimits
  rw [List.count_eq_zero_of_not_mem (not_mem_escapeMarkup s delimits),
    List.count_eq_zero_of_not_mem (not_mem_escapeMarkup s' delimits)]

theorem join {α : Type} {R : α → α → Prop} {l l' : List α} {text text' : α → String}
    (pairs : List.Forall₂ R l l') (each : ∀ a b, R a b → SameMarkup (text a) (text' b)) :
    SameMarkup (String.join (l.map text)) (String.join (l'.map text')) := by
  induction pairs with
  | nil => exact refl _
  | cons first _ ih =>
    rw [List.map_cons, List.map_cons, String.join_cons, String.join_cons]
    exact (each _ _ first).append ih

end SameMarkup

end Text

/-! ### Doclets in other words -/

/-- The doclets show the same of themselves, in whatever words. -/
structure Doclet.Reworded (d d' : Doclet) : Prop where
  kind : d.kind = d'.kind
  access : d.access = d'.access
  undocumented : d.undocumented = d'.undocumented
  inherited : d.inherited = d'.inherited
  mixed : d.mixed = d'.mixed
  memberOf : d.memberOf.isSome = d'.memberOf.isSome
  description : d.description.isSome = d'.description.isSome
  summary : d.summary.isSome = d'.summary.isSome
  augments : d.augments.isEmpty = d'.augments.isEmpty

theorem Doclet.Reworded.isVisible {d d' : Doclet} (reworded : d.Reworded d') :
    d.isVisible = d'.isVisible := by
  simp only [Doclet.isVisible, Doclet.isPrivate, ← Option.not_isSome, reworded.kind,
    reworded.access, reworded.undocumented, reworded.description]

/-- Of lists that pair up, the same positions are kept. -/
theorem pairs_filter {α : Type} {R : α → α → Prop} {l l' : List α} {keep keep' : α → Bool}
    (pairs : List.Forall₂ R l l') (each : ∀ a b, R a b → keep a = keep' b) :
    List.Forall₂ R (l.filter keep) (l'.filter keep') := by
  have same (a b : α) (pair : R a b) : keep a = true ↔ keep' b = true := by rw [each a b pair]
  exact List.rel_filter (fun a b pair => same a b pair) pairs

namespace Collection

variable {c c' : Collection} {d d' p p' : Doclet}

/-- The same doclets in other words: who is a member of whom stays as it is. -/
structure Reworded (c c' : Collection) : Prop where
  each : List.Forall₂ Doclet.Reworded c.doclets c'.doclets
  members : ∀ d ∈ c.doclets.zip c'.doclets, ∀ p ∈ c.doclets.zip c'.doclets,
    (d.1.memberOf = some p.1.longname ↔ d.2.memberOf = some p.2.longname)

/-- A doclet of a collection and what it is in the other one. -/
structure Pair (c c' : Collection) (d d' : Doclet) : Prop where
  paired : (d, d') ∈ c.doclets.zip c'.doclets
  reworded : d.Reworded d'

theorem Reworded.pairs (reworded : c.Reworded c') :
    List.Forall₂ (c.Pair c') c.doclets c'.doclets := by
  obtain ⟨long, each⟩ := List.forall₂_iff_zip.mp reworded.each
  exact List.forall₂_iff_zip.mpr ⟨long, fun paired => ⟨paired, each paired⟩⟩

theorem Reworded.membersOf (reworded : c.Reworded c') (pair : c.Pair c' p p') :
    List.Forall₂ (c.Pair c') (c.membersOf p.longname) (c'.membersOf p'.longname) := by
  refine pairs_filter reworded.pairs fun d d' pair' => ?_
  rw [Bool.eq_iff_iff, beq_iff_eq, beq_iff_eq]
  exact reworded.members (d, d') pair'.paired (p, p') pair.paired

end Collection

namespace Site

variable {c c' : Collection} {d d' : Doclet}

theorem isEmpty_eq {α : Type} {R : α → α → Prop} {l l' : List α} (each : List.Forall₂ R l l') :
    l.isEmpty = l'.isEmpty := by
  cases each <;> rfl

theorem sameMarkup_optional {render : String → String} {text text' : Option String}
    (there : text.isSome = text'.isSome) (each : ∀ s s', SameMarkup (render s) (render s')) :
    SameMarkup (optional render text) (optional render text') := by
  cases text with
  | none =>
    cases text' with
    | none => exact .refl _
    | some s' => cases there
  | some s =>
    cases text' with
    | none => cases there
    | some s' => exact each s s'

theorem sameMarkup_memberItem (reworded : d.Reworded d') :
    SameMarkup (memberItem d) (memberItem d') := by
  have flags_eq : flags d = flags d' := by
    simp only [flags, reworded.inherited, reworded.mixed]
  have name : SameMarkup (escapeMarkup d.longname) (escapeMarkup d'.longname) := .escaped _ _
  let ofDescription (text : String) : String := " " ++ escapeMarkup text
  have description : SameMarkup (optional ofDescription d.description)
      (optional ofDescription d'.description) :=
    sameMarkup_optional reworded.description fun s s' =>
      (SameMarkup.refl " ").append (.escaped s s')
  unfold memberItem
  simp only [toString, flags_eq]
  exact (((((name.within _ _).append name).append (.refl _)).append (.refl _)).append
    description).append (.refl _)

theorem sameMarkup_memberList {l l' : List Doclet}
    (each : List.Forall₂ Doclet.Reworded l l') : SameMarkup (memberList l) (memberList l') := by
  have items := SameMarkup.join each fun _ _ => sameMarkup_memberItem
  unfold memberList
  rw [isEmpty_eq each]
  split
  · exact .refl _
  · exact items.within _ _

theorem sameMarkup_parentList {parents parents' : List String}
    (there : parents.isEmpty = parents'.isEmpty) :
    SameMarkup (parentList parents) (parentList parents') := by
  unfold parentList
  rw [there]
  split
  · exact .refl _
  · exact (SameMarkup.escaped _ _).within _ _

theorem visibleMembers_reworded (reworded : c.Reworded c') (pair : c.Pair c' d d') :
    List.Forall₂ Doclet.Reworded (visibleMembers c d) (visibleMembers c' d') := by
  have visible : List.Forall₂ (c.Pair c') (visibleMembers c d) (visibleMembers c' d') :=
    pairs_filter (reworded.membersOf pair) fun _ _ pair => pair.reworded.isVisible
  exact visible.imp fun _ _ pair => pair.reworded

theorem sameMarkup_article (reworded : c.Reworded c') (pair : c.Pair c' d d') :
    SameMarkup (article c d) (article c' d') := by
  have longname : SameMarkup (escapeMarkup d.longname) (escapeMarkup d'.longname) := .escaped _ _
  have name : SameMarkup (escapeMarkup d.name) (escapeMarkup d'.name) := .escaped _ _
  let ofSummary (text : String) : String := s!"<p class=\"summary\">{escapeMarkup text}</p>"
  have summary : SameMarkup (optional ofSummary d.summary) (optional ofSummary d'.summary) :=
    sameMarkup_optional pair.reworded.summary fun s s' => (SameMarkup.escaped s s').within _ _
  let ofDescription (text : String) : String := s!"<p>{escapeMarkup text}</p>"
  have description : SameMarkup (optional ofDescription d.description)
      (optional ofDescription d'.description) :=
    sameMarkup_optional pair.reworded.description fun s s' => (SameMarkup.escaped s s').within _ _
  have parents := sameMarkup_parentList pair.reworded.augments
  have members := sameMarkup_memberList (visibleMembers_reworded reworded pair)
  unfold article
  exact (((((((longname.within _ _).append name).append (.refl _)).append summary).append
    description).append parents).append members).append (.refl _)

theorem topLevel_reworded (reworded : c.Reworded c') (kind : Kind) :
    List.Forall₂ (c.Pair c') (topLevel c kind) (topLevel c' kind) := by
  refine pairs_filter reworded.pairs fun d d' pair => ?_
  rw [pair.reworded.kind, pair.reworded.isVisible, ← Option.not_isSome, pair.reworded.memberOf,
    Option.not_isSome]

theorem sameMarkup_sectionText (reworded : c.Reworded c') (s : Kind × String) :
    SameMarkup (sectionText c s) (sectionText c' s) := by
  have top := topLevel_reworded reworded s.1
  have articles := SameMarkup.join top fun _ _ => sameMarkup_article reworded
  unfold sectionText
  dsimp only
  rw [isEmpty_eq top]
  split
  · exact .refl _
  · exact (SameMarkup.refl _).append articles

theorem sameMarkup_head (title title' : String) : SameMarkup (head title) (head title') := by
  have escaped : SameMarkup (escapeMarkup title) (escapeMarkup title') := .escaped _ _
  unfold head
  exact (SameMarkup.refl _).append ((SameMarkup.refl _).append (escaped.append
    ((SameMarkup.refl _).append (escaped.append (.refl _)))))

theorem sameMarkup_index (reworded : c.Reworded c') (options : Options)
    (tutorials : TutorialTree) :
    SameMarkup (index c options tutorials) (index c' options tutorials) := by
  have texts : SameMarkup (String.join (sections.map (sectionText c)))
      (String.join (sections.map (sectionText c'))) :=
    .join (List.forall₂_same.mpr fun s (_ : s ∈ sections) => Eq.refl s)
      fun s s' same => same ▸ sameMarkup_sectionText reworded s
  rw [index_eq, index_eq]
  exact ((sameMarkup_head _ _).append (.refl _)).append (texts.append (.refl _))

end Site

/-! ### Writing -/

/-- Two files hold the same bytes, or texts with the same markup. -/
inductive HeldAlike : Bytes → Bytes → Prop where
  | same (bytes : Bytes) : HeldAlike bytes bytes
  | texts {s s' : String} (markup : SameMarkup s s') : HeldAlike (encodeUtf8 s) (encodeUtf8 s')

/-- A page and what it is in other words. -/
structure Page.Reworded (p p' : Page) : Prop where
  file : p.file = p'.file
  markup : SameMarkup p.text p'.text

/-- Desks with the same notes and with trees that are alike. -/
structure Desk.Alike {σ : Type} (desk desk' : Desk σ) : Prop where
  notes : desk.notes = desk'.notes
  files : FileTree.Alike HeldAlike desk.files desk'.files

namespace Attempt

variable {σ α β : Type}

/-- On desks that are alike both attempts end alike; the logs may differ. -/
def Alike (a a' : Attempt σ α) : Prop :=
  ∀ desk desk', desk.Alike desk' → (a.run.run desk).1 = (a'.run.run desk').1 ∧
    (a.run.run desk).2.1.Alike (a'.run.run desk').2.1

theorem alike_log (e e' : Event) : Alike (log e : Attempt σ Unit) (log e') :=
  fun _ _ alike => ⟨rfl, alike⟩

theorem Alike.bind {a a' : Attempt σ α} {f f' : α → Attempt σ β} (first : Alike a a')
    (next : ∀ v, Alike (f v) (f' v)) : Alike (a >>= f) (a' >>= f') := by
  intro desk desk' alike
  have same := first desk desk' alike
  rw [bind_run, bind_run]
  generalize a.run.run desk = left at same ⊢
  generalize a'.run.run desk' = right at same ⊢
  obtain ⟨result, left, log⟩ := left
  obtain ⟨result', right, log'⟩ := right
  obtain ⟨rfl, alike⟩ : result = result' ∧ left.Alike right := same
  cases result with
  | ok v => exact next v left right alike
  | error e => exact ⟨rfl, alike⟩

theorem alike_changeFiles (path : Path) {change change' : FileTree → Except FileFault FileTree}
    (agree : ∀ t t', FileTree.Alike HeldAlike t t' →
      Agree (FileTree.Alike HeldAlike) (change t) (change' t')) :
    Alike (changeFiles path change : Attempt σ Unit) (changeFiles path change') := by
  intro desk desk' alike
  have same := agree desk.files desk'.files alike.files
  rw [changeFiles_run, changeFiles_run]
  generalize change desk.files = left at same ⊢
  generalize change' desk'.files = right at same ⊢
  cases same with
  | ok files => exact ⟨rfl, alike.notes, files⟩
  | error => exact ⟨rfl, alike⟩

end Attempt

namespace Page

variable {σ : Type} {p p' : Page} {pages pages' : List Page}

theorem alike_write (dir : Path) (reworded : p.Reworded p') :
    Attempt.Alike (write dir p : Attempt σ Unit) (write dir p') := by
  obtain ⟨file, text⟩ := p
  obtain ⟨rfl, markup⟩ := reworded
  refine .bind (Attempt.alike_changeFiles _ fun t t' alike => ?_) fun _ => ?_
  · exact alike.writeText _ (.texts markup)
  · refine .bind (Attempt.alike_changeFiles _ fun t t' alike => ?_) fun _ => ?_
    · exact alike.rename _ _
    · exact Attempt.alike_log _ _

theorem alike_forM_write (dir : Path) (reworded : List.Forall₂ Page.Reworded pages pages') :
    Attempt.Alike (pages.forM (write dir) : Attempt σ Unit) (pages'.forM (write dir)) := by
  induction reworded with
  | nil => exact fun _ _ alike => ⟨rfl, alike⟩
  | cons first _ ih =>
    rw [forM_write_cons, forM_write_cons]
    exact (alike_write dir first).bind fun _ => ih

theorem unlinked_reworded {made : FileTree} {dir : Path}
    (reworded : List.Forall₂ Page.Reworded pages pages')
    (unlinked : ∀ p ∈ pages, made.linkTarget? (p.draft dir) = none) :
    ∀ p ∈ pages', made.linkTarget? (p.draft dir) = none := by
  induction reworded with
  | nil => nofun
  | @cons p p' _ _ first _ ih =>
    obtain ⟨unlinked_p, unlinked⟩ := List.forall_mem_cons.mp unlinked
    have same : p'.draft dir = p.draft dir := by rw [draft, draft, target, target, first.file]
    exact List.forall_mem_cons.mpr ⟨same ▸ unlinked_p, ih unlinked⟩

end Page

theorem Template.alike_publish {σ : Type} {label : String}
    {makePages : Collection → Options → TutorialTree → List Page} {c c' : Collection}
    {options : Options} {tutorials : TutorialTree}
    (reworded : List.Forall₂ Page.Reworded (makePages c options tutorials)
      (makePages c' options tutorials)) (desk : Desk σ) :
    let publish (c : Collection) :=
      ((ofPages label makePages : Template σ).publish c options tutorials).run.run desk
    (publish c).1 = (publish c').1 ∧ (publish c).2.1.Alike (publish c').2.1 := by
  intro publish
  have refl (t : FileTree) : FileTree.Alike HeldAlike t t := .refl .same t
  let dir := options.outputDir
  let written : Event := .info s!"{label} documentation written" [("path", dir.text)]
  let write (c : Collection) : Attempt σ Unit :=
    (makePages c options tutorials).forM (Page.write dir) >>= fun _ => Attempt.log written
  have writes : Attempt.Alike (write c) (write c') :=
    (Page.alike_forM_write dir reworded).bind fun _ => Attempt.alike_log written written
  have publish_eq (c : Collection) : publish c =
      (Attempt.tryFiles dir (·.tryDirectories dir) >>= fun _ => write c).run.run desk := rfl
  rw [publish_eq, publish_eq, Attempt.bind_run, Attempt.bind_run, Attempt.tryFiles_run]
  rcases desk.files.tryDirectories dir with ⟨e | _, left⟩
  · exact ⟨rfl, rfl, refl left⟩
  · exact writes _ _ ⟨rfl, refl left⟩

namespace Site

variable {σ : Type} {c c' : Collection}

theorem pages_reworded (reworded : c.Reworded c') (options : Options) (tutorials : TutorialTree) :
    List.Forall₂ Page.Reworded (pages c options tutorials) (pages c' options tutorials) := by
  rw [pages_eq, pages_eq]
  refine List.rel_append (List.forall₂_same.mpr fun p _ => ⟨rfl, .refl _⟩) ?_
  exact .cons ⟨rfl, sameMarkup_index reworded options tutorials⟩ .nil

/-- **Doclet text cannot bring in markup.** When a collection is put in other words the index has as
many of each delimiter, publishing ends in the same way, and files are left in the same places, with
the same markup in them. When publishing ends well, `index.html` holds the index. -/
theorem publish_reworded (reworded : c.Reworded c') (options : Options) (tutorials : TutorialTree)
    (desk : Desk σ) :
    let publish (c : Collection) :=
      ((template : Template σ).publish c options tutorials).run.run desk
    let place := options.outputDir / ⟨"index.html"⟩
    SameMarkup (index c options tutorials) (index c' options tutorials) ∧
      (publish c).1 = (publish c').1 ∧
      FileTree.Alike HeldAlike (publish c).2.1.files (publish c').2.1.files ∧
      ∀ made, desk.files.makeDirectories options.outputDir = .ok made →
        (∀ p ∈ pages c options tutorials, made.linkTarget? (p.draft options.outputDir) = none) →
        (publish c).1 = .ok () →
          made.HasFile (publish c).2.1.files place (index c options tutorials) ∧
          made.HasFile (publish c').2.1.files place (index c' options tutorials) := by
  intro publish place
  have pairs := pages_reworded reworded options tutorials
  have alike : (publish c).1 = (publish c').1 ∧ (publish c).2.1.Alike (publish c').2.1 :=
    Template.alike_publish pairs desk
  refine ⟨sameMarkup_index reworded options tutorials, alike.1, alike.2.files, ?_⟩
  intro made done unlinked ok
  have unlinked' := Page.unlinked_reworded pairs unlinked
  exact ⟨publish_index done unlinked ok, publish_index done unlinked' (alike.1 ▸ ok)⟩

/-- A type and its member, in some words. -/
def sketch (package type member text : String) : Collection :=
  .ofList [{ Doclet.named package .package with version := some text },
    { Doclet.named type .classType with summary := some text, augments := [text] },
    { (Doclet.named member .member).setMemberOf type .onInstance with description := some text }]

theorem publish_reworded_sketch :
    let plain := sketch "shapes" "Circle" "radius" "How far it reaches"
    let hostile := sketch "<shapes>" "\"><b>" "<i>" "</p><script>"
    let publish (c : Collection) :=
      ((template : Template Unit).publish c {} default).run.run ⟨Template.bare, ()⟩
    let place := Options.outputDir {} / ⟨"index.html"⟩
    plain.Reworded hostile ∧ (publish plain).1 = .ok () ∧ (publish hostile).1 = .ok () ∧
      ∃ index index', Template.bare.HasFile (publish plain).2.1.files place index ∧
        Template.bare.HasFile (publish hostile).2.1.files place index' ∧
        SameMarkup index index' := by
  intro plain hostile publish place
  have reworded : plain.Reworded hostile := by
    refine ⟨?_, by decide⟩
    refine .cons ?_ (.cons ?_ (.cons ?_ .nil))
    all_goals exact ⟨rfl, rfl, rfl, rfl, rfl, rfl, rfl, rfl, rfl⟩
  obtain ⟨done, unlinked, ok⟩ := publish_bare () plain default
  obtain ⟨markup, same, -, files⟩ := publish_reworded reworded {} default ⟨Template.bare, ()⟩
  obtain ⟨holds, holds'⟩ := files Template.bare done unlinked ok
  exact ⟨reworded, ok, same.symm.trans ok, _, _, holds, holds', markup⟩

end Site

end RefDoc
