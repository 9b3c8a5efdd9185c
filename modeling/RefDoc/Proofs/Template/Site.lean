import RefDoc.Proofs.Template.Untorn
import RefDoc.Proofs.Text.Markup

/-!
# Reading the site

What the pages of the default template say. A page shows its title and its text (`Site.page_inj`).
The index links to the file of every tutorial, in the order of the tree (`Site.hrefs_index`), and
has an element for each doclet that is `Site.shown`, and for no other (`Site.carries_sections`).
-/

namespace RefDoc

open FileTree Text

namespace TutorialTree

mutual

/-- The tutorials of a tree, each before those below it. -/
def nodes : TutorialTree → List TutorialTree
  | ⟨name, title, content, children⟩ => ⟨name, title, content, children⟩ :: nodesAmong children

def nodesAmong : List TutorialTree → List TutorialTree
  | [] => []
  | t :: rest => nodes t ++ nodesAmong rest

end

end TutorialTree

namespace Site

open TutorialTree

/-! ### Pages -/

/-- What stands in front of the text of a page. -/
def head (title : String) : String :=
  "<!DOCTYPE html>\n<html lang=\"en\">\n<head>\n<meta charset=\"utf-8\">\n" ++ ("<title>" ++
    (escapeMarkup title ++ ("</title>\n</head>\n<body>\n<h1>" ++ (escapeMarkup title ++
      "</h1>\n"))))

theorem page_eq (title body : String) :
    page title body = head title ++ (body ++ "</body>\n</html>\n") := by
  unfold page head
  simp only [toString]
  simp only [String.append_assoc]

/-- A page shows its title and its text. -/
theorem page_inj {title title' body body' : String} :
    page title body = page title' body' ↔ title = title' ∧ body = body' := by
  refine ⟨fun same => ?_, fun ⟨titles, bodies⟩ => by rw [titles, bodies]⟩
  have close : "</title>\n</head>\n<body>\n<h1>".toList =
      '<' :: "/title>\n</head>\n<body>\n<h1>".toList := rfl
  have read (s : String) (rest : List Char) :
      ((escapeMarkup s).toList ++ '<' :: rest).takeWhile (· != '<') = (escapeMarkup s).toList := by
    have ahead (c : Char) (member : c ∈ (escapeMarkup s).toList) : (c != '<') = true :=
      bne_iff_ne.mpr (plain_escapeMarkup s c member).1
    rw [List.takeWhile_append_of_pos ahead]
    simp
  rw [page_eq, page_eq, ← String.toList_inj] at same
  unfold head at same
  simp only [String.toList_append, List.append_assoc, List.append_cancel_left_eq, close,
    List.cons_append] at same
  have titles := congrArg (List.takeWhile (· != '<')) same
  rw [read, read, String.toList_inj] at titles
  obtain rfl := escapeMarkup_inj.mp titles
  simpa only [List.append_cancel_left_eq, List.append_cancel_right_eq, List.cons.injEq,
    String.toList_inj, true_and] using same

/-- The page of a tutorial. -/
def tutorialPage (t : TutorialTree) : Page := ⟨tutorialFile t.name, page t.title t.content⟩

mutual

theorem tutorialPages_eq : (t : TutorialTree) → tutorialPages t = t.nodes.map tutorialPage
  | ⟨name, title, content, children⟩ => by
    rw [tutorialPages, nodes, List.map_cons, pagesOfAll_eq children]
    rfl

theorem pagesOfAll_eq : (ts : List TutorialTree) → pagesOfAll ts = (nodesAmong ts).map tutorialPage
  | [] => rfl
  | t :: rest => by
    rw [pagesOfAll, nodesAmong, List.map_append, tutorialPages_eq t, pagesOfAll_eq rest]

end

/-! ### Links to tutorials -/

theorem plain_tutorialFile (name : String) : Plain (tutorialFile name) := by
  intro c member
  have fixed (s : String) (plain : Plain s) (within : c ∈ s.toList) := plain c within
  rw [toList_tutorialFile, List.mem_append, List.mem_append, List.mem_map] at member
  rcases member with member | ⟨d, -, rfl⟩ | member
  · exact fixed _ (by decide) member
  · exact ⟨safeChar_ne rfl d, safeChar_ne rfl d, safeChar_ne rfl d⟩
  · exact fixed _ (by decide) member

/-- What an attribute is given by the link to a tutorial of some name, and by nothing else in a list
of tutorials. -/
structure LinksGive (key : String) (given : String → List String) : Prop where
  list : Carries key tutorialListOpen []
  link : ∀ name, Carries key ("<" ++ "a href=" ++ "\"" ++ tutorialFile name ++ "\">") (given name)

theorem links_href : LinksGive "href" fun name => [tutorialFile name] where
  list := carries_closed (by decide) (by decide)
  link name := carries_given (by decide) (plain_tutorialFile name) (by decide)

theorem links_id : LinksGive "id" fun _ => [] where
  list := carries_closed (by decide) (by decide)
  link name := carries_other (by decide) (plain_tutorialFile name) (by decide)

variable {key : String} {given : String → List String}

mutual

theorem carries_tutorialItem (links : LinksGive key given) : (t : TutorialTree) →
    Carries key (tutorialItem t) (t.nodes.flatMap fun t => given t.name)
  | ⟨name, title, content, children⟩ => by
    have below : Carries key
        (if children.isEmpty then "" else tutorialListOpen ++ tutorialItems children ++ "</ul>\n")
        ((nodesAmong children).flatMap fun t => given t.name) := by
      cases children with
      | nil => exact .nil
      | cons t rest =>
        exact .within links.list (carries_unquoted (by decide) (by decide))
          (carries_tutorialItems links (t :: rest))
    have start : "<li><a href=\"" = "<li>" ++ ("<" ++ "a href=" ++ "\"") := rfl
    have item : tutorialItem ⟨name, title, content, children⟩ = "<li>" ++
        ("<" ++ "a href=" ++ "\"" ++ tutorialFile name ++ "\">" ++ (escapeMarkup title ++ "</a>" ++
          (if children.isEmpty then "" else
            tutorialListOpen ++ tutorialItems children ++ "</ul>\n") ++ "</li>")) := by
      unfold tutorialItem
      simp only [toString, start]
      simp only [String.append_assoc]
    rw [item, nodes, List.flatMap_cons]
    refine .before (carries_unquoted (by decide) (by decide)) ((links.link name).append ?_)
    refine .behind (carries_unquoted (by decide) (by decide)) (.before ?_ below)
    exact .behind (carries_unquoted (by decide) (by decide)) (carries_escaped key title)

theorem carries_tutorialItems (links : LinksGive key given) : (ts : List TutorialTree) →
    Carries key (tutorialItems ts) ((nodesAmong ts).flatMap fun t => given t.name)
  | [] => .nil
  | t :: rest => by
    rw [tutorialItems, nodesAmong, List.flatMap_append]
    exact (carries_tutorialItem links t).append (carries_tutorialItems links rest)

end

/-! ### Elements of doclets -/

/-- The visible members of a doclet. -/
def visibleMembers (all : Collection) (d : Doclet) : List Doclet :=
  (all.membersOf d.longname).filter (·.isVisible)

/-- The doclets with an element of their own, in the order of the page. -/
def shown (all : Collection) : List Doclet :=
  sections.flatMap fun s => (topLevel all s.1).flatMap fun d => d :: visibleMembers all d

theorem carries_optional {key : String} {render : String → String} {text : Option String}
    (each : ∀ s, Carries key (render s) []) : Carries key (optional render text) [] := by
  cases text with
  | none => exact .nil
  | some s => exact each s

theorem carries_flags (d : Doclet) : Carries "id" (flags d) [] := by
  unfold flags
  split <;> exact carries_unquoted (by decide) (by decide)

theorem carries_memberItem (d : Doclet) :
    Carries "id" (memberItem d) [escapeMarkup d.longname] := by
  have start : "<li id=\"" = "<" ++ "li id=" ++ "\"" := rfl
  have close : "\"><code>" = "\">" ++ "<code>" := rfl
  have item : memberItem d = "<" ++ "li id=" ++ "\"" ++ escapeMarkup d.longname ++ "\">" ++
      ("<code>" ++ escapeMarkup d.longname ++ "</code>" ++ flags d ++
        optional (fun text => " " ++ escapeMarkup text) d.description ++ "</li>") := by
    unfold memberItem
    simp only [toString, start, close]
    simp only [String.append_assoc]
  have name : Carries "id" ("<code>" ++ escapeMarkup d.longname ++ "</code>") [] :=
    .within (carries_unquoted (by decide) (by decide)) (carries_unquoted (by decide) (by decide))
      (carries_escaped "id" d.longname)
  have description :
      Carries "id" (optional (fun text => " " ++ escapeMarkup text) d.description) [] :=
    carries_optional fun text => (carries_unquoted (by decide) (by decide)).before
      (carries_escaped "id" text)
  rw [item]
  refine .behind ?_ (carries_given (by decide) (plain_escapeMarkup _) (by decide))
  refine .behind (carries_unquoted (by decide) (by decide)) ?_
  exact (name.before (carries_flags d)).before description

theorem carries_memberList (members : List Doclet) :
    Carries "id" (memberList members) (members.map fun d => escapeMarkup d.longname) := by
  unfold memberList
  split
  · rename_i empty
    rw [List.isEmpty_iff.mp empty]
    exact .nil
  · exact .within (carries_closed (by decide) (by decide))
      (carries_unquoted (by decide) (by decide)) (.join_one fun d _ => carries_memberItem d)

theorem carries_parentList (parents : List String) : Carries "id" (parentList parents) [] := by
  unfold parentList
  split
  · exact .nil
  · exact .within (carries_closed (by decide) (by decide))
      (carries_unquoted (by decide) (by decide)) (carries_escaped "id" _)

theorem carries_article (all : Collection) (d : Doclet) : Carries "id" (article all d)
    ((d :: visibleMembers all d).map fun d => escapeMarkup d.longname) := by
  have start : "<article id=\"" = "<" ++ "article id=" ++ "\"" := rfl
  have close : "\"><h3>" = "\">" ++ "<h3>" := rfl
  let summary := optional (fun text => s!"<p class=\"summary\">{escapeMarkup text}</p>") d.summary
  let description := optional (fun text => s!"<p>{escapeMarkup text}</p>") d.description
  have whole : article all d = "<" ++ "article id=" ++ "\"" ++ escapeMarkup d.longname ++ "\">" ++
      ("<h3>" ++ escapeMarkup d.name ++ "</h3>" ++ summary ++ description ++
        parentList d.augments ++ (memberList (visibleMembers all d) ++ "</article>\n")) := by
    unfold article
    simp only [toString, start, close, summary, description, visibleMembers]
    simp only [String.append_assoc]
  have name : Carries "id" ("<h3>" ++ escapeMarkup d.name ++ "</h3>") [] :=
    .within (carries_unquoted (by decide) (by decide)) (carries_unquoted (by decide) (by decide))
      (carries_escaped "id" d.name)
  have summary_free : Carries "id" summary [] := by
    refine carries_optional fun text => ?_
    simp only [toString]
    exact .within (carries_closed (by decide) (by decide))
      (carries_unquoted (by decide) (by decide)) (carries_escaped "id" text)
  have description_free : Carries "id" description [] := by
    refine carries_optional fun text => ?_
    simp only [toString]
    exact .within (carries_unquoted (by decide) (by decide))
      (carries_unquoted (by decide) (by decide)) (carries_escaped "id" text)
  rw [whole, List.map_cons, ← List.singleton_append]
  refine (carries_given (by decide) (plain_escapeMarkup _) (by decide)).append ?_
  refine .before ?_ (.behind (carries_unquoted (by decide) (by decide)) (carries_memberList _))
  exact ((name.before summary_free).before description_free).before (carries_parentList _)

theorem carries_sectionText (all : Collection) {s : Kind × String} (listed : s ∈ sections) :
    Carries "id" (sectionText all s) (((topLevel all s.1).flatMap fun d =>
      d :: visibleMembers all d).map fun d => escapeMarkup d.longname) := by
  unfold sectionText
  dsimp only
  split
  · rename_i empty
    rw [List.isEmpty_iff.mp empty]
    exact .nil
  · have headings : ∀ s ∈ sections, Plain s.2 := by decide
    rw [List.map_flatMap]
    refine .before ?_ (.join fun d _ => carries_article all d)
    simp only [toString]
    exact .within (carries_unquoted (by decide) (by decide))
      (carries_unquoted (by decide) (by decide)) (headings s listed).carries

/-! ### The index -/

/-- What stands behind the sections. -/
def ending (ts : List TutorialTree) : String :=
  (if ts.isEmpty then "" else "<h2>Tutorials</h2>\n" ++ tutorialIndex ts) ++ "</body>\n</html>\n"

/-- The text of the index. -/
def index (all : Collection) (options : Options) (tutorials : TutorialTree) : String :=
  page (title all) (body all options tutorials)

theorem index_eq (all : Collection) (options : Options) (tutorials : TutorialTree) :
    index all options tutorials = head (title all) ++
      optional (fun html => s!"<section class=\"readme\">{html}</section>\n") options.readmeHtml ++
      (String.join (sections.map (sectionText all)) ++ ending tutorials.children) := by
  rw [index, page_eq, body, ending]
  simp only [String.append_assoc]

theorem pages_eq (all : Collection) (options : Options) (tutorials : TutorialTree) :
    pages all options tutorials = (nodesAmong tutorials.children).map tutorialPage ++
      [⟨"index.html", index all options tutorials⟩] := by
  rw [pages, pagesOfAll_eq, index]

theorem carries_head (title : String) : Carries "id" (head title) [] := by
  have escaped : Carries "id" (escapeMarkup title) [] := carries_escaped "id" title
  refine .before (carries_closed (by decide) (by decide)) ?_
  refine .before (carries_unquoted (by decide) (by decide)) (escaped.before ?_)
  refine .before (carries_unquoted (by decide) (by decide)) (escaped.before ?_)
  exact carries_unquoted (by decide) (by decide)

theorem carries_ending (links : LinksGive key given) (ts : List TutorialTree) :
    Carries key (ending ts) ((nodesAmong ts).flatMap fun t => given t.name) := by
  refine .behind (carries_unquoted (by decide) (by decide)) ?_
  cases ts with
  | nil => exact .nil
  | cons t rest =>
    refine .before (carries_unquoted (by decide) (by decide)) ?_
    exact .within links.list (carries_unquoted (by decide) (by decide))
      (carries_tutorialItems links (t :: rest))

/-- Every tutorial is linked to, in the order of the tree. -/
theorem hrefs_index (all : Collection) (options : Options) (tutorials : TutorialTree) :
    (nodesAmong tutorials.children).map (fun t => tutorialFile t.name) <:+
      values "href" (index all options tutorials) := by
  have singly : (nodesAmong tutorials.children).map (fun t => tutorialFile t.name) =
      (nodesAmong tutorials.children).flatMap fun t => [tutorialFile t.name] :=
    List.map_eq_flatMap
  rw [singly, index_eq, ← String.append_assoc]
  exact (carries_ending links_href tutorials.children).suffix _

/-- Behind the readme there is an element for whoever is shown, and no other. -/
theorem carries_sections (all : Collection) (ts : List TutorialTree) :
    Carries "id" (String.join (sections.map (sectionText all)) ++ ending ts)
      ((shown all).map fun d => escapeMarkup d.longname) := by
  have ends : Carries "id" (ending ts) [] := by
    have links := carries_ending links_id ts
    rwa [List.flatMap_eq_nil_iff.mpr fun _ _ => rfl] at links
  refine ends.behind ?_
  rw [shown, List.map_flatMap]
  exact .join fun s listed => carries_sectionText all listed

theorem ids_suffix (all : Collection) (options : Options) (tutorials : TutorialTree) :
    (shown all).map (fun d => escapeMarkup d.longname) <:+
      values "id" (index all options tutorials) := by
  rw [index_eq]
  exact (carries_sections all tutorials.children).suffix _

theorem ids_index {options : Options} (none : options.readmeHtml = none) (all : Collection)
    (tutorials : TutorialTree) : values "id" (index all options tutorials) =
      (shown all).map fun d => escapeMarkup d.longname := by
  rw [index_eq, none]
  have front : Carries "id" (head (title all) ++ "") [] := (carries_head _).before .nil
  exact (front.before (carries_sections all tutorials.children)).values_eq

/-! ### Publishing -/

section Publishing

variable {σ : Type} {all : Collection} {options : Options} {tutorials : TutorialTree}
  {desk : Desk σ} {made : FileTree}
  (done : desk.files.makeDirectories options.outputDir = .ok made)
  (unlinked : ∀ p ∈ pages all options tutorials,
    made.linkTarget? (p.draft options.outputDir) = none)

include done unlinked

theorem publish_last {front behind : List Page} {file text : String}
    (split : pages all options tutorials = front ++ ⟨file, text⟩ :: behind)
    (last : ∀ p ∈ behind, p.file ≠ file) :
    let run := ((template : Template σ).publish all options tutorials).run.run desk
    run.1 = .ok () → made.HasFile run.2.1.files (options.outputDir / ⟨file⟩) text :=
  @Template.ofPages_last σ "HTML" pages all options tutorials desk made
    (placed_pages all options tutorials) done unlinked front behind ⟨file, text⟩ split last

theorem publish_index :
    let run := ((template : Template σ).publish all options tutorials).run.run desk
    run.1 = .ok () → made.HasFile run.2.1.files (options.outputDir / ⟨"index.html"⟩)
      (index all options tutorials) :=
  publish_last done unlinked (pages_eq all options tutorials) nofun

end Publishing

theorem publish_bare {σ : Type} (notes : σ) (all : Collection) (tutorials : TutorialTree) :
    Template.bare.makeDirectories (Options.outputDir {}) = .ok Template.bare ∧
      (∀ p ∈ pages all {} tutorials,
        Template.bare.linkTarget? (p.draft (Options.outputDir {})) = none) ∧
      (((template : Template σ).publish all {} tutorials).run.run ⟨Template.bare, notes⟩).1 =
        .ok () :=
  @Template.ofPages_bare σ "HTML" pages all tutorials notes (placed_pages _ _ _)

end Site

end RefDoc
