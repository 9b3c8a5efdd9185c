import RefDoc.Proofs.FileTree.Directories
import RefDoc.Proofs.Template.Privacy
import RefDoc.Proofs.Template.Writing

/-!
# Output files are never torn

Wherever publishing ends or comes to a halt (`Halted`), each place holds what it held before or the
whole text of a page that goes there, the places of drafts aside (`Untorn`). When it ends well no
draft is left (`Delivered`), and publishing again changes nothing. All of this is so unless a link
stands where a draft is to be written (`draft_through_link`).
-/

namespace RefDoc

open FileTree

/-! ### Names of pages -/

theorem Page.placed_of_file {file : String} (text : String)
    (named : file ≠ "" ∧ Proper file ∧ '/' ∉ file.toList ∧ file.toList.head? ≠ some '.') :
    Page.Placed ⟨file, text⟩ :=
  ⟨⟨named.1, named.2.1, named.2.2.1⟩, named.2.2.2⟩

namespace Site

theorem safeChar_ne {d : Char} (other : (d.isAlphanum || d == '-' || d == '_') = false) (c : Char) :
    safeChar c ≠ d := by
  unfold safeChar
  split
  · rename_i safe
    rintro rfl
    rw [other] at safe
    cases safe
  · rintro rfl
    exact absurd other (by decide)

theorem toList_tutorialFile (name : String) : (tutorialFile name).toList =
    "tutorial-".toList ++ (name.toList.map safeChar ++ ".html".toList) := by
  simp [tutorialFile, toString]

theorem placed_tutorialFile (name text : String) : Page.Placed ⟨tutorialFile name, text⟩ := by
  have first (s : String) (other : s.toList.head? ≠ some 't') : tutorialFile name ≠ s := by
    rintro rfl
    exact other (by rw [toList_tutorialFile]; rfl)
  refine Page.placed_of_file text
    ⟨first "" (by decide), ⟨first "." (by decide), first ".." (by decide)⟩, ?_, ?_⟩
  · rw [toList_tutorialFile]
    simp [safeChar_ne]
  · rw [toList_tutorialFile]
    simp

mutual

theorem placed_tutorialPages : (t : TutorialTree) → ∀ p ∈ tutorialPages t, p.Placed
  | ⟨name, title, content, children⟩ => by
    rw [tutorialPages]
    exact List.forall_mem_cons.mpr ⟨placed_tutorialFile name _, placed_pagesOfAll children⟩

theorem placed_pagesOfAll : (ts : List TutorialTree) → ∀ p ∈ pagesOfAll ts, p.Placed
  | [] => nofun
  | t :: rest => by
    rw [pagesOfAll]
    exact List.forall_mem_append.mpr ⟨placed_tutorialPages t, placed_pagesOfAll rest⟩

end

theorem placed_pages (all : Collection) (options : Options) (tutorials : TutorialTree) :
    ∀ p ∈ pages all options tutorials, p.Placed := by
  unfold pages
  refine List.forall_mem_append.mpr ⟨placed_pagesOfAll _, List.forall_mem_singleton.mpr ?_⟩
  exact Page.placed_of_file _ (by decide)

end Site

namespace SymbolTree

/-- The one page of the symbol tree. -/
def pages (all : Collection) (_ : Options) (tutorials : TutorialTree) : List Page :=
  [⟨"doclets.json", (document all tutorials).pretty⟩]

theorem placed_pages (all : Collection) (options : Options) (tutorials : TutorialTree) :
    ∀ p ∈ pages all options tutorials, p.Placed :=
  List.forall_mem_singleton.mpr (Page.placed_of_file _ (by decide))

end SymbolTree

/-! ### What is promised -/

/-- The place a path leads to, whether there is something or not; a link there is not followed. -/
def FileTree.place? (t : FileTree) (p : Path) : Option Place :=
  match t.locate false p with
  | .ok (.node place _) | .ok (.free place) => some place
  | .error _ => none

/-- The file that a path led to when the tree was `made` has the text in the tree `after`. -/
def FileTree.HasFile (made after : FileTree) (p : Path) (text : String) : Prop :=
  ∃ q, made.place? p = some q ∧ after.at? q = some (.file (Text.encodeUtf8 text))

theorem FileTree.HasFile.unique {made after : FileTree} {p : Path} {text text' : String}
    (holds : HasFile made after p text) (holds' : HasFile made after p text') : text = text' := by
  obtain ⟨q, leads, stands⟩ := holds
  obtain ⟨q', leads', stands'⟩ := holds'
  obtain rfl := Option.some.inj (leads.symm.trans leads')
  exact Text.encodeUtf8_inj.mp (FileNode.file.inj (Option.some.inj (stands.symm.trans stands')))

/-- Drafts aside, every place holds what it held, a directory that was made there, or the whole text
of a page that goes there. `made` is the tree in which the directories of `dir` had been made. -/
def Untorn (dir : Path) (pages : List Page) (before made after : FileTree) : Prop :=
  ∀ q, (∀ p ∈ pages, made.place? (p.draft dir) ≠ some q) →
    after.at? q = before.at? q ∨ (before.at? q = none ∧ after.at? q = some .directory) ∨
      ∃ p ∈ pages, made.place? (p.target dir) = some q ∧
        after.at? q = some (.file (Text.encodeUtf8 p.text))

/-- Trees in which the writing of pages may come to a halt: some were written, one after another,
and then perhaps anything at all as the draft of one. -/
def Halted {σ : Type} (dir : Path) (pages : List Page) (desk : Desk σ) (t : FileTree) : Prop :=
  ∃ front, front <+: pages ∧
    let left := ((front.forM (Page.write dir)).run.run desk).2.1.files
    t = left ∨ ∃ p ∈ pages, ∃ q, left.place? (p.draft dir) = some q ∧
      ∃ bytes, t = left.put q (.file bytes)

/-- Where a page goes is the whole text of a page that goes there, and its draft is gone. -/
def Delivered (dir : Path) (pages : List Page) (made after : FileTree) : Prop :=
  ∀ p ∈ pages, (∃ q, made.place? (p.draft dir) = some q ∧ after.at? q = none) ∧
    ∃ q, made.place? (p.target dir) = some q ∧ ∃ p' ∈ pages,
      made.place? (p'.target dir) = some q ∧ after.at? q = some (.file (Text.encodeUtf8 p'.text))

section Promises

variable {dir : Path} {dest : Place} {pages : List Page} {before made after : FileTree} {p : Page}

theorem place?_of_leads {name : String} {path : Path} (leads : made.Leads path dest name)
    (proper : Proper name) : made.place? path = some (dest ++ [name]) := by
  unfold FileTree.place?
  cases stands : made.at? (dest ++ [name]) with
  | none => rw [leads.locate_free proper stands]
  | some node => rw [leads.locate_node proper stands (.inl rfl)]

theorem place?_target (placed : p.Placed) (opens : made.Opens dir dest) :
    made.place? (p.target dir) = some (p.place dest) :=
  place?_of_leads ((leads_join placed.entry).mpr opens) placed.entry.proper

theorem place?_draft (placed : p.Placed) (opens : made.Opens dir dest) :
    made.place? (p.draft dir) = some (p.draftPlace dest) :=
  place?_of_leads ((leads_withFileName placed.entry placed.draft_entry).mpr opens)
    placed.draft_entry.proper

/-- Drafts have places in the directory only. -/
theorem eq_draftPlace {q : Place} (placed : p.Placed) (found : made.place? (p.draft dir) = some q) :
    ∃ dest, made.Opens dir dest ∧ q = p.draftPlace dest := by
  obtain ⟨dest, opens⟩ : ∃ dest, made.Opens dir dest := by
    cases located : made.locate false (p.draft dir) with
    | ok _ => exact opens_of_locate placed.entry placed.draft_entry located
    | error e => simp [FileTree.place?, located] at found
  rw [place?_draft placed opens] at found
  exact ⟨dest, opens, (Option.some.inj found).symm⟩

theorem linkTarget?_draft (placed : p.Placed) (opens : made.Opens dir dest) :
    made.linkTarget? (p.draft dir) = none ↔
      ∀ target, made.at? (p.draftPlace dest) ≠ some (.link target) := by
  have leads : made.Leads (p.draft dir) dest p.draftName :=
    (leads_withFileName placed.entry placed.draft_entry).mpr opens
  have proper := placed.draft_entry.proper
  unfold linkTarget?
  cases stands : made.at? (dest ++ [p.draftName]) with
  | none => simp [leads.locate_free proper stands, Page.draftPlace, stands]
  | some node =>
    rw [leads.locate_node proper stands (.inl rfl), Page.draftPlace, stands]
    cases node <;> simp

theorem untorn_of_published (placed : ∀ p ∈ pages, p.Placed) (opens : made.Opens dir dest)
    (founded : Founded before made) (published : Published dest pages made after) :
    Untorn dir pages before made after := by
  intro q undrafted
  rcases published.places q with same | ⟨p, member, goes, -, holds⟩ | ⟨p, member, beside, -, -⟩
  · rw [same]
    exact (founded.places q).imp id .inl
  · refine .inr (.inr ⟨p, member, ?_, holds⟩)
    rw [goes]
    exact place?_target (placed p member) opens
  · refine absurd ?_ (undrafted p member)
    rw [beside]
    exact place?_draft (placed p member) opens

theorem Untorn.put {q : Place} (untorn : Untorn dir pages before made after) (member : p ∈ pages)
    (drafted : made.place? (p.draft dir) = some q) (below : q ≠ []) (node : FileNode) :
    Untorn dir pages before made (after.put q node) := by
  intro q' undrafted
  have other : q' ≠ q := by
    rintro rfl
    exact undrafted p member drafted
  rw [at?_put below, if_neg other]
  exact untorn q' undrafted

/-- A tree to which nothing but directories were added is not torn. -/
theorem untorn_of_founded (founded : Founded before made) : Untorn dir pages before made made :=
  fun q _ => (founded.places q).imp id .inl

variable (settled : ∀ q, after.at? q = pages.foldl (Page.settle dest q) (made.at? q))

include settled

theorem draft_gone (placed : ∀ p ∈ pages, p.Placed) (member : p ∈ pages) :
    after.at? (p.draftPlace dest) = none := by
  rw [settled]
  exact foldl_settle_draft (fun p' member' same => (placed p' member').place_ne dest p same.symm)
    (.inr ⟨p, member, rfl⟩)

theorem place_last {front behind : List Page} (placed : p.Placed)
    (split : pages = front ++ p :: behind) (last : ∀ p' ∈ behind, p'.file ≠ p.file) :
    after.at? (p.place dest) = some p.node := by
  rw [settled, split, List.foldl_append, List.foldl_cons, Page.settle, if_pos rfl]
  refine foldl_settle_other fun p' member =>
    ⟨fun same => last p' member ?_, placed.place_ne dest p'⟩
  exact (List.cons.inj (List.append_cancel_left same)).1.symm

theorem place_held (placed : ∀ p ∈ pages, p.Placed) (member : p ∈ pages) :
    ∃ p' ∈ pages, p.place dest = p'.place dest ∧ after.at? (p.place dest) = some p'.node := by
  obtain ⟨front, p', behind, split, same, last⟩ :=
    exists_last (P := fun p' => p'.file = p.file) member rfl
  have member' : p' ∈ pages := by
    rw [split]
    exact List.mem_append_right _ (.head _)
  have goes : p.place dest = p'.place dest := by rw [Page.place, Page.place, same]
  rw [goes]
  refine ⟨p', member', rfl, place_last settled (placed p' member') split fun b there => ?_⟩
  rw [same]
  exact last b there

theorem delivered_of_settled (placed : ∀ p ∈ pages, p.Placed) (opens : made.Opens dir dest) :
    Delivered dir pages made after := by
  intro p member
  refine ⟨⟨_, place?_draft (placed p member) opens, draft_gone settled placed member⟩,
    ⟨_, place?_target (placed p member) opens, ?_⟩⟩
  obtain ⟨p', member', same, holds⟩ := place_held settled placed member
  refine ⟨p', member', ?_, holds⟩
  rw [same]
  exact place?_target (placed p' member') opens

theorem loose_of_settled (placed : ∀ p ∈ pages, p.Placed) (member : p ∈ pages) :
    after.Loose (p.place dest) ∧ after.Loose (p.draftPlace dest) := by
  obtain ⟨p', -, -, holds⟩ := place_held settled placed member
  exact ⟨.inr ⟨_, holds⟩, .inl (draft_gone settled placed member)⟩

end Promises

namespace Template

variable {σ : Type}

/-- The pages that a built-in template makes. -/
inductive Makes (doclets : Collection) (options : Options) (tutorials : TutorialTree) :
    Template σ → List Page → Prop where
  | site : Makes doclets options tutorials Site.template (Site.pages doclets options tutorials)
  | symbols : Makes doclets options tutorials SymbolTree.template
      (SymbolTree.pages doclets options tutorials)

variable {label : String} {makePages : Collection → Options → TutorialTree → List Page}
  {doclets : Collection} {options : Options} {tutorials : TutorialTree} {desk : Desk σ}

/-- Without the directories no page is written. -/
theorem publish_unmade {e : FileFault}
    (failed : desk.files.makeDirectories options.outputDir = .error e) :
    ((ofPages label makePages).publish doclets options tutorials).run.run desk =
      (.error (.file options.outputDir e),
        { desk with files := (desk.files.tryDirectories options.outputDir).2 }, []) := by
  simp only [ofPages, Attempt.bind_run, Attempt.tryFiles_run, tryDirectories_of_error failed]
  rfl

/-- Behind the directories, publishing is writing the pages. -/
theorem publish_made {made : FileTree}
    (done : desk.files.makeDirectories options.outputDir = .ok made) {result : Except Error Unit}
    {after : Desk σ} {log : List Event}
    (writing : ((makePages doclets options tutorials).forM (Page.write options.outputDir)).run.run
      { desk with files := made } = (result, after, log)) :
    let publishing := ((ofPages label makePages).publish doclets options tutorials).run.run desk
    publishing.1 = result ∧ publishing.2.1 = after := by
  simp only [ofPages, Attempt.bind_run, Attempt.tryFiles_run, tryDirectories_of_ok done]
  simp only [Except.mapError, writing, Attempt.log_run]
  cases result <;> exact ⟨rfl, rfl⟩

/-- Publishing again what has been published changes nothing. -/
theorem publish_again {made : FileTree}
    (placed : ∀ p ∈ makePages doclets options tutorials, p.Placed)
    (directory : options.outputDir.components.isEmpty = false →
      made.isDirectory options.outputDir)
    (refiled : Refiled made desk.files)
    (settled : ∀ dest, desk.files.Opens options.outputDir dest →
      (∀ p ∈ makePages doclets options tutorials,
        desk.files.Loose (p.place dest) ∧ desk.files.Loose (p.draftPlace dest)) ∧
      ∀ q, (makePages doclets options tutorials).foldl (Page.settle dest q) (desk.files.at? q) =
        desk.files.at? q) (q : Place) :
    (((ofPages label makePages).publish doclets options tutorials).run.run desk).2.1.files.at? q =
      desk.files.at? q := by
  have unchanged := tryDirectories_refiled directory refiled
  cases done : desk.files.makeDirectories options.outputDir with
  | error e => rw [publish_unmade done, unchanged]
  | ok made' =>
    rw [tryDirectories_of_ok done] at unchanged
    obtain rfl := unchanged
    obtain ⟨t, notes⟩ := desk
    by_cases opens : ∃ dest, t.Opens options.outputDir dest
    · obtain ⟨dest, opens⟩ := opens
      obtain ⟨loose, same⟩ := settled dest opens
      have ok := forM_write_ok notes placed opens loose
      obtain ⟨result, t', log, run, -, written⟩ :=
        forM_write_published notes placed opens (fun p member => (loose p member).2.not_link)
          (fun _ => id) .refl
      rw [run] at ok
      rw [(publish_made done run).2]
      exact (written ok q).trans (same q)
    · obtain ⟨result, log, run, -⟩ :=
        forM_write_closed notes placed fun dest opens' => opens ⟨dest, opens'⟩
      rw [(publish_made done run).2]

/-- Wherever writing comes to a halt, nothing is torn. -/
theorem untorn_of_halted {dir : Path} {pages : List Page} {before made t : FileTree} (notes : σ)
    (placed : ∀ p ∈ pages, p.Placed) (founded : Founded before made)
    (unlinked : ∀ p ∈ pages, made.linkTarget? (p.draft dir) = none)
    (halted : Halted dir pages (Desk.mk made notes) t) : Untorn dir pages before made t := by
  obtain ⟨front, ahead, halted⟩ := halted
  have members : ∀ p ∈ front, p ∈ pages := fun p member => ahead.subset member
  by_cases opens : ∃ dest, made.Opens dir dest
  · obtain ⟨dest, opens⟩ := opens
    obtain ⟨result, left, log, run, published, -⟩ :=
      forM_write_published notes placed opens
        (fun p member => (linkTarget?_draft (placed p member) opens).mp (unlinked p member))
        members .refl
    have untorn := untorn_of_published placed opens founded published
    rw [run] at halted
    rcases halted with rfl | ⟨p, member, q, drafted, bytes, rfl⟩
    · exact untorn
    · obtain ⟨dest', opens', rfl⟩ := eq_draftPlace (placed p member) drafted
      obtain rfl := published.opens opens opens'
      exact untorn.put member (place?_draft (placed p member) opens) (by simp [Page.draftPlace]) _
  · obtain ⟨result, log, run, -⟩ :=
      forM_write_closed notes (fun p member => placed p (members p member))
        fun dest opens' => opens ⟨dest, opens'⟩
    rw [run] at halted
    rcases halted with rfl | ⟨p, member, q, drafted, -⟩
    · exact untorn_of_founded founded
    · obtain ⟨dest, opens', -⟩ := eq_draftPlace (placed p member) drafted
      exact absurd ⟨dest, opens'⟩ opens

section Ended

variable {made : FileTree} (placed : ∀ p ∈ makePages doclets options tutorials, p.Placed)
  (done : desk.files.makeDirectories options.outputDir = .ok made)
  (unlinked : ∀ p ∈ makePages doclets options tutorials,
    made.linkTarget? (p.draft options.outputDir) = none)

include placed done unlinked

/-- When publishing ends well each place is as the pages settle it, unless there is no page. -/
theorem ofPages_settled :
    let publish := ((ofPages label makePages : Template σ).publish doclets options tutorials).run
    let after := (publish.run desk).2.1
    (publish.run desk).1 = .ok () →
      (∃ dest, made.Opens options.outputDir dest ∧
        Published dest (makePages doclets options tutorials) made after.files ∧
        ∀ q, after.files.at? q =
          (makePages doclets options tutorials).foldl (Page.settle dest q) (made.at? q)) ∨
      makePages doclets options tutorials = [] ∧ after.files = made ∧
        ∀ dest, ¬ made.Opens options.outputDir dest := by
  intro publish after ok
  obtain ⟨t, notes⟩ := desk
  by_cases opens : ∃ dest, made.Opens options.outputDir dest
  · obtain ⟨dest, opens⟩ := opens
    obtain ⟨result, t', log, run, published, written⟩ :=
      forM_write_published notes placed opens
        (fun p member => (linkTarget?_draft (placed p member) opens).mp (unlinked p member))
        (fun _ => id) .refl
    obtain ⟨ended, left⟩ : (publish.run ⟨t, notes⟩).1 = result ∧ after = _ := publish_made done run
    rw [left]
    exact .inl ⟨dest, opens, published, written (ended.symm.trans ok)⟩
  · have closed (dest : Place) (opens' : made.Opens options.outputDir dest) : False :=
      opens ⟨dest, opens'⟩
    obtain ⟨result, log, run, none⟩ := forM_write_closed notes placed closed
    obtain ⟨ended, left⟩ : (publish.run ⟨t, notes⟩).1 = result ∧ after = _ := publish_made done run
    rw [left]
    exact .inr ⟨none (ended.symm.trans ok), rfl, closed⟩

theorem ofPages_delivered :
    let publish := ((ofPages label makePages : Template σ).publish doclets options tutorials).run
    let after := (publish.run desk).2.1
    (publish.run desk).1 = .ok () →
      Delivered options.outputDir (makePages doclets options tutorials) made after.files ∧
        ∀ q, (publish.run after).2.1.files.at? q = after.files.at? q := by
  intro publish after ok
  obtain ⟨-, directory⟩ := makeDirectories_ok done
  rcases ofPages_settled placed done unlinked ok with
    ⟨dest, opens, published, settled⟩ | ⟨none, same, closed⟩
  · refine ⟨delivered_of_settled settled placed opens,
      publish_again placed directory published.refiled fun dest' opens' => ?_⟩
    obtain rfl := published.opens opens opens'
    refine ⟨fun p member => loose_of_settled settled placed member, fun q => ?_⟩
    show _ = after.files.at? q
    rw [settled q, foldl_settle_idem]
  · rw [Delivered, none]
    have refiled : Refiled made after.files := by
      rw [same]
      exact .refl made
    exact ⟨nofun, publish_again placed directory refiled fun dest opens' =>
      absurd (same ▸ opens') (closed dest)⟩

/-- When publishing ends well a page is there if no page behind it goes to its file. -/
theorem ofPages_last {front behind : List Page} {p : Page}
    (split : makePages doclets options tutorials = front ++ p :: behind)
    (last : ∀ p' ∈ behind, p'.file ≠ p.file) :
    let publish := ((ofPages label makePages : Template σ).publish doclets options tutorials).run
    (publish.run desk).1 = .ok () →
      HasFile made (publish.run desk).2.1.files (p.target options.outputDir) p.text := by
  intro publish ok
  have placed_p : p.Placed := placed p (by rw [split]; exact List.mem_append_right _ (.head _))
  rcases ofPages_settled placed done unlinked ok with
    ⟨dest, opens, -, settled⟩ | ⟨none, -, -⟩
  · exact ⟨p.place dest, place?_target placed_p opens, place_last settled placed_p split last⟩
  · simp [none] at split

end Ended

/-- **Nothing is torn** where pages have names of their own. -/
theorem ofPages_untorn {made : FileTree}
    (placed : ∀ p ∈ makePages doclets options tutorials, p.Placed)
    (done : desk.files.makeDirectories options.outputDir = .ok made)
    (unlinked : ∀ p ∈ makePages doclets options tutorials,
      made.linkTarget? (p.draft options.outputDir) = none) :
    let dir := options.outputDir
    let pages := makePages doclets options tutorials
    let publish := ((ofPages label makePages : Template σ).publish doclets options tutorials).run
    let after := (publish.run desk).2.1
    (∀ t, Halted dir pages { desk with files := made } t → Untorn dir pages desk.files made t) ∧
      Untorn dir pages desk.files made after.files ∧
      ((publish.run desk).1 = .ok () → Delivered dir pages made after.files ∧
        ∀ q, (publish.run after).2.1.files.at? q = after.files.at? q) := by
  intro dir pages publish after
  have halted (t : FileTree) : Halted dir pages { desk with files := made } t →
      Untorn dir pages desk.files made t :=
    untorn_of_halted desk.notes placed (makeDirectories_ok done).1 unlinked
  have ended : Halted dir pages { desk with files := made } after.files :=
    ⟨pages, List.prefix_rfl, .inl (congrArg Desk.files (publish_made done rfl).2)⟩
  exact ⟨halted, halted _ ended, ofPages_delivered placed done unlinked⟩

/-- **Output files are never torn**, as long as no link stands where a draft is written. A built-in
template makes pages, and however publishing ends or is broken off, each place holds what it held
before, a directory that was made there, or the whole text of a page that goes there; drafts aside.
When publishing ends well every page is there and no draft is left, and publishing again changes
nothing. -/
theorem publish_untorn (name : String) (template : Template σ)
    (registered : builtin.get? name = some template) (doclets : Collection) (options : Options)
    (tutorials : TutorialTree) (desk : Desk σ) :
    let dir := options.outputDir
    let publish := (template.publish doclets options tutorials).run
    let after := (publish.run desk).2.1
    (∃ pages, Makes doclets options tutorials template pages) ∧
      ∀ pages, Makes doclets options tutorials template pages →
        (∀ e, desk.files.makeDirectories dir = .error e → ∃ left, Founded desk.files left ∧
          publish.run desk = (.error (.file dir e), { desk with files := left }, [])) ∧
        ∀ made, desk.files.makeDirectories dir = .ok made →
          (∀ p ∈ pages, made.linkTarget? (p.draft dir) = none) →
            (∀ t, Halted dir pages { desk with files := made } t →
              Untorn dir pages desk.files made t) ∧
            Untorn dir pages desk.files made after.files ∧
            ((publish.run desk).1 = .ok () →
              Delivered dir pages made after.files ∧
                ∀ q, (publish.run after).2.1.files.at? q = after.files.at? q) := by
  intro dir publish after
  constructor
  · rcases eq_of_builtin registered with rfl | rfl
    · exact ⟨_, .site⟩
    · exact ⟨_, .symbols⟩
  · intro pages makes
    have founded := founded_tryDirectories desk.files dir
    cases makes with
    | site =>
      exact ⟨fun e failed => ⟨_, founded, publish_unmade failed⟩, fun made done =>
        ofPages_untorn (Site.placed_pages doclets options tutorials) done⟩
    | symbols =>
      exact ⟨fun e failed => ⟨_, founded, publish_unmade failed⟩, fun made done =>
        ofPages_untorn (SymbolTree.placed_pages doclets options tutorials) done⟩

/-! ### Destinations -/

theorem outputDir_default : Options.outputDir {} = ⟨"./out/"⟩ := rfl

theorem opens_default {t : FileTree} (home : t.home = [])
    (out : t.at? ["out"] = some .directory) :
    t.makeDirectories (Options.outputDir {}) = .ok t ∧ t.Opens (Options.outputDir {}) ["out"] := by
  have start : t.origin ⟨"./out/"⟩ = [] := by
    rw [origin, home]
    rfl
  have enters (links : Nat) : t.Enters links [] [".", "out"] links ["out"] :=
    .dot rfl (.down rfl (by decide) out (.here out))
  have through_eq : through ⟨"./out/"⟩ = [".", "out"] := by decide
  have steps_eq : steps ⟨"./out/"⟩ = [".", "out"] ++ ["."] := by decide
  constructor
  · refine makeDirectories_of_isDirectory (by decide)
      ((isDirectory_iff (by decide)).mpr ⟨["out"], ?_⟩)
    rw [outputDir_default, start, steps_eq]
    exact ((enters linkLimit).append (enters_dots out (by simp))).walk
  · refine ⟨linkLimit, ?_⟩
    rw [outputDir_default, start, through_eq]
    exact enters linkLimit

/-- A destination with nothing in it. -/
def bare : FileTree := ⟨[(["out"], .directory)], []⟩

theorem ofPages_bare (notes : σ) (placed : ∀ p ∈ makePages doclets {} tutorials, p.Placed) :
    bare.makeDirectories (Options.outputDir {}) = .ok bare ∧
      (∀ p ∈ makePages doclets {} tutorials,
        bare.linkTarget? (p.draft (Options.outputDir {})) = none) ∧
      (((ofPages label makePages : Template σ).publish doclets {} tutorials).run.run
        ⟨bare, notes⟩).1 = .ok () := by
  obtain ⟨done, opens⟩ := opens_default (t := bare) rfl rfl
  have free (name : String) : bare.at? (["out"] ++ [name]) = none := by
    simp [bare, at?]
  refine ⟨done,
    fun p member => (linkTarget?_draft (placed p member) opens).mpr fun target => ?_, ?_⟩
  · rw [Page.draftPlace, free]
    simp
  · have made : (Desk.mk bare notes).files.makeDirectories (Options.outputDir {}) = .ok bare := done
    exact (publish_made made rfl).1.trans
      (forM_write_ok notes placed opens fun p _ => ⟨.inl (free _), .inl (free _)⟩)

/-- A directory with a page from an earlier run, a file of someone else and a draft left behind. -/
def visited : FileTree :=
  ⟨[(["out"], .directory), (["out", "index.html"], .file [79]), (["out", "notes.txt"], .file [78]),
    (["out", ".index.html.tmp"], .file [])], []⟩

theorem publish_untorn_visited :
    let dir : Path := Options.outputDir {}
    let tutorials : TutorialTree := .root [⟨"first steps", "First steps", "", []⟩]
    let pages := Site.pages guarded {} tutorials
    let publish := ((Site.template : Template Unit).publish guarded {} tutorials).run
    let after := (publish.run ⟨visited, ()⟩).2.1
    builtin.get? "templates/default" = some (Site.template : Template Unit) ∧
      visited.makeDirectories dir = .ok visited ∧
      (∀ p ∈ pages, visited.linkTarget? (p.draft dir) = none) ∧
      Untorn dir pages visited visited after.files := by
  intro dir tutorials pages publish after
  obtain ⟨done, opens⟩ := opens_default (t := visited) rfl rfl
  have unlinked : ∀ p ∈ pages, visited.linkTarget? (p.draft dir) = none := by
    intro p member
    refine (linkTarget?_draft (Site.placed_pages guarded {} tutorials p member) opens).mpr ?_
    have free (text : String) :
        visited.at? (Page.draftPlace ["out"] ⟨Site.tutorialFile "first steps", text⟩) = none := by
      show visited.at? (Page.draftPlace ["out"] ⟨Site.tutorialFile "first steps", ""⟩) = none
      decide
    have left (text : String) :
        visited.at? (Page.draftPlace ["out"] ⟨"index.html", text⟩) = some (.file []) := by
      show visited.at? (Page.draftPlace ["out"] ⟨"index.html", ""⟩) = some (.file [])
      decide
    intro target
    rcases List.mem_cons.mp member with rfl | member
    · rw [free]
      nofun
    · obtain rfl := List.mem_singleton.mp member
      rw [left]
      nofun
  have untorn := publish_untorn "templates/default" Site.template rfl guarded {} tutorials
    ⟨visited, ()⟩
  exact ⟨rfl, done, unlinked, ((untorn.2 pages .site).2 visited done unlinked).2.1⟩

/-- The place of a draft is a link to a file of someone else. -/
def linked : FileTree :=
  ⟨[(["out"], .directory), (["out", "notes.txt"], .file (Text.encodeUtf8 "N")),
    (["out", ".doclets.json.tmp"], .link ⟨"notes.txt"⟩)], []⟩

theorem locate_linked : linked.locate true ⟨"./out/.doclets.json.tmp"⟩ =
    .ok (.node ["out", "notes.txt"] (.file (Text.encodeUtf8 "N"))) := by
  have link : linked.at? ["out", ".doclets.json.tmp"] = some (.link ⟨"notes.txt"⟩) := rfl
  have notes : linked.at? ["out", "notes.txt"] = some (.file (Text.encodeUtf8 "N")) := rfl
  have out : linked.at? ["out"] = some .directory := rfl
  have steps_eq : steps ⟨"./out/.doclets.json.tmp"⟩ = [".", "out", ".doclets.json.tmp"] := by
    decide
  have steps_notes : steps ⟨"notes.txt"⟩ = ["notes.txt"] := by decide
  have start : linked.origin ⟨"./out/.doclets.json.tmp"⟩ = [] := rfl
  have relative : Path.isAbsolute ⟨"notes.txt"⟩ = false := by decide
  rw [locate, if_neg (by decide), steps_eq, start]
  simp [walk, out, link, notes, steps_notes, relative, linkLimit]

/-- The draft is written through the link, and the link is moved to the place of the page. -/
theorem draft_through_link :
    let dir : Path := Options.outputDir {}
    let page : Page := ⟨"doclets.json", (SymbolTree.document Collection.empty default).pretty⟩
    let run := ((SymbolTree.template : Template Unit).publish Collection.empty {} default).run.run
      ⟨linked, ()⟩
    Makes Collection.empty {} default (SymbolTree.template : Template Unit) [page] ∧
      linked.makeDirectories dir = .ok linked ∧ run.1 = .ok () ∧
      run.2.1.files.at? ["out", "notes.txt"] = some page.node ∧
      run.2.1.files.at? ["out", "doclets.json"] = some (.link ⟨"notes.txt"⟩) ∧
      ¬ Untorn dir [page] linked linked run.2.1.files := by
  intro dir page run
  obtain ⟨done, opens⟩ := opens_default (t := linked) rfl rfl
  have placed : page.Placed := Page.placed_of_file _ (by decide)
  have goes : page.place ["out"] = ["out", "doclets.json"] := rfl
  have beside : page.draftPlace ["out"] = ["out", ".doclets.json.tmp"] := by
    show Page.draftPlace ["out"] ⟨"doclets.json", ""⟩ = _
    decide
  have draft : page.draft dir = ⟨"./out/.doclets.json.tmp"⟩ := by
    show Page.draft ⟨"doclets.json", ""⟩ ⟨"./out/"⟩ = _
    decide
  have link : linked.at? (page.draftPlace ["out"]) = some (.link ⟨"notes.txt"⟩) := by
    rw [beside]
    rfl
  let left := ((linked.put ["out", "notes.txt"] page.node).remove (page.draftPlace ["out"])).put
    (page.place ["out"]) (.link ⟨"notes.txt"⟩)
  have ended : run.1 = .ok () ∧ run.2.1 = ⟨left, ()⟩ := by
    have writing : ((SymbolTree.pages Collection.empty {} default).forM
        (Page.write dir : Page → Attempt Unit Unit)).run.run ⟨linked, ()⟩ =
          (.ok (), ⟨left, ()⟩, [.debug "wrote output file"
            [("file", (page.target dir).text), ("size", toString page.text.utf8ByteSize)]]) := by
      show ((Page.write dir page : Attempt Unit Unit) >>= fun _ => pure ()).run.run _ = _
      rw [Attempt.bind_run,
        Page.write_linked () placed opens link (draft ▸ locate_linked) rfl nofun]
      rfl
    have done : (Desk.mk linked ()).files.makeDirectories dir = .ok linked := done
    exact publish_made done writing
  have at_left (q : Place) : left.at? q =
      if q = page.place ["out"] then some (.link ⟨"notes.txt"⟩)
      else if q = page.draftPlace ["out"] then none
      else if q = ["out", "notes.txt"] then some page.node else linked.at? q := by
    rw [at?_put (by simp [Page.place]), at?_remove (by simp [Page.draftPlace]), at?_put (by simp)]
  have page_there : left.at? ["out", "doclets.json"] = some (.link ⟨"notes.txt"⟩) := by
    rw [at_left, if_pos goes.symm]
  have notes_there : left.at? ["out", "notes.txt"] = some page.node := by
    rw [at_left, goes, beside]
    rfl
  rw [ended.1, ended.2]
  refine ⟨.symbols, done, rfl, notes_there, page_there, fun untorn => ?_⟩
  have undrafted : ∀ p ∈ [page], linked.place? (p.draft dir) ≠ some ["out", "doclets.json"] := by
    refine List.forall_mem_singleton.mpr ?_
    rw [place?_draft placed opens, beside]
    decide
  rcases untorn _ undrafted with same | ⟨-, directory⟩ | ⟨p, -, -, holds⟩
  · rw [page_there] at same
    cases same
  · rw [page_there] at directory
    cases directory
  · rw [page_there] at holds
    cases holds

end Template

end RefDoc
