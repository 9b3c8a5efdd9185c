import RefDoc.Template.Basic
import RefDoc.Text.Markup

/-!
# The site

The default template: `index.html` shows every visible symbol that belongs to no other, with its
members, in sections by kind, and each tutorial has a page of its own. Doclet text stands in it
escaped; the readme and the tutorials are HTML already.
-/

namespace RefDoc

open Text

/-- Whether a reader should see the doclet: documented, not private, and not the package. -/
def Doclet.isVisible (d : Doclet) : Bool :=
  d.kind != .package && !d.isPrivate && !(d.undocumented && d.description.isNone)

namespace Site

/-- The sections in order. -/
def sections : List (Kind × String) :=
  [(.moduleUnit, "Modules"),
    (.namespaceUnit, "Namespaces"),
    (.classType, "Classes"),
    (.interface, "Interfaces"),
    (.mixin, "Mixins"),
    (.function, "Functions"),
    (.member, "Members"),
    (.constant, "Constants"),
    (.typedef, "Type Definitions"),
    (.event, "Events")]

/-- Text for a value that is there. -/
def optional (render : String → String) : Option String → String
  | some text => render text
  | none => ""

/-- How a member came to be one, in parentheses. -/
def flags (d : Doclet) : String :=
  match d.inherited, d.mixed with
  | false, false => ""
  | true, false => " <em>(inherited)</em>"
  | false, true => " <em>(mixed)</em>"
  | true, true => " <em>(inherited, mixed)</em>"

def memberItem (d : Doclet) : String :=
  let longname := escapeMarkup d.longname
  s!"<li id=\"{longname}\"><code>{longname}</code>" ++ flags d ++
    optional (fun text => " " ++ escapeMarkup text) d.description ++ "</li>"

def memberList (members : List Doclet) : String :=
  if members.isEmpty then ""
  else "<ul class=\"members\">" ++ String.join (members.map memberItem) ++ "</ul>"

def parentList (parents : List String) : String :=
  if parents.isEmpty then ""
  else "<p class=\"extends\">Extends " ++ escapeMarkup (", ".intercalate parents) ++ "</p>"

def article (all : Collection) (d : Doclet) : String :=
  s!"<article id=\"{escapeMarkup d.longname}\"><h3>{escapeMarkup d.name}</h3>" ++
    optional (fun text => s!"<p class=\"summary\">{escapeMarkup text}</p>") d.summary ++
    optional (fun text => s!"<p>{escapeMarkup text}</p>") d.description ++
    parentList d.augments ++
    memberList ((all.membersOf d.longname).filter (·.isVisible)) ++ "</article>\n"

/-- The symbols of one kind that belong to no other. -/
def topLevel (all : Collection) (kind : Kind) : List Doclet :=
  all.doclets.filter fun d => d.kind == kind && d.memberOf.isNone && d.isVisible

/-- A section; one without symbols is left out. -/
def sectionText (all : Collection) (s : Kind × String) : String :=
  let top := topLevel all s.1
  if top.isEmpty then ""
  else s!"<h2>{s.2}</h2>\n" ++ String.join (top.map (article all))

/-- The name and version of the first package that has a name. -/
def title (all : Collection) : String :=
  match all.doclets.find? fun d => d.kind == .package && !d.name.isEmpty with
  | none => "Home"
  | some d =>
    match d.version with
    | some version => d.name ++ " " ++ version
    | none => d.name

def page (title body : String) : String :=
  let title := escapeMarkup title
  "<!DOCTYPE html>\n<html lang=\"en\">\n<head>\n<meta charset=\"utf-8\">\n" ++
    s!"<title>{title}</title>\n</head>\n<body>\n<h1>{title}</h1>\n{body}</body>\n</html>\n"

/-! ### Tutorials -/

/-- Letters, digits, hyphens and underscores stay in the name of a page; all else becomes an
underscore. -/
def safeChar (c : Char) : Char :=
  if c.isAlphanum || c == '-' || c == '_' then c else '_'

def tutorialFile (name : String) : String :=
  s!"tutorial-{String.ofList (name.toList.map safeChar)}.html"

def tutorialListOpen : String := "<ul class=\"tutorials\">"

mutual

def tutorialItem : TutorialTree → String
  | ⟨name, title, _, children⟩ =>
    s!"<li><a href=\"{tutorialFile name}\">{escapeMarkup title}</a>" ++
      (if children.isEmpty then "" else tutorialListOpen ++ tutorialItems children ++ "</ul>\n") ++
      "</li>"

def tutorialItems : List TutorialTree → String
  | [] => ""
  | t :: rest => tutorialItem t ++ tutorialItems rest

end

def tutorialIndex (ts : List TutorialTree) : String :=
  tutorialListOpen ++ tutorialItems ts ++ "</ul>\n"

mutual

/-- The page of a tutorial, and those of the tutorials below it. -/
def tutorialPages : TutorialTree → List Page
  | ⟨name, title, content, children⟩ =>
    ⟨tutorialFile name, page title content⟩ :: pagesOfAll children

def pagesOfAll : List TutorialTree → List Page
  | [] => []
  | t :: rest => tutorialPages t ++ pagesOfAll rest

end

/-! ### The pages -/

def body (all : Collection) (options : Options) (tutorials : TutorialTree) : String :=
  optional (fun html => s!"<section class=\"readme\">{html}</section>\n") options.readmeHtml ++
    String.join (sections.map (sectionText all)) ++
    (if tutorials.children.isEmpty then ""
      else "<h2>Tutorials</h2>\n" ++ tutorialIndex tutorials.children)

/-- The pages in the order in which they are written, the index last. -/
def pages (all : Collection) (options : Options) (tutorials : TutorialTree) : List Page :=
  pagesOfAll tutorials.children ++ [⟨"index.html", page (title all) (body all options tutorials)⟩]

def template {σ : Type} : Template σ := .ofPages "HTML" pages

end Site

end RefDoc
