import RefDoc.Tutorial.Shelf

/-!
# Nesting tutorials

The settings say which tutorial is below which. A tutorial that several others claim goes to the
first of them by name. Tutorials that nobody claims are directly below the root; those that can only
be reached through a circle are attached there as well, so that none is lost.
-/

namespace RefDoc

namespace Tutorial

/-- The tutorial as settings want it. -/
def adjusted (t : Tutorial) (s : TutorialSettings) : Tutorial :=
  { t with
    title := s.title.getD t.title
    children := t.children ++ s.named ++ s.nested.map (·.1) }

end Tutorial

/-- All tutorials by name. -/
abbrev Tutorials := Table Tutorial

namespace Tutorials

mutual

/-- Applies the settings of one tutorial, then those of the children within them. -/
def apply (ts : Tutorials) (name : String) : TutorialSettings → Tutorials × List Event
  | ⟨title, named, nested⟩ =>
    match ts.get? name with
    | none => (ts, [.warn "config for unknown tutorial" [("tutorial", name)]])
    | some t => applyAll (ts.insert name (t.adjusted ⟨title, named, nested⟩)) nested

def applyAll (ts : Tutorials) : List (String × TutorialSettings) → Tutorials × List Event
  | [] => (ts, [])
  | (name, settings) :: rest =>
    let (ts, log) := apply ts name settings
    let (ts, others) := applyAll ts rest
    (ts, log ++ others)

end

/-- The parent of every tutorial that has one. -/
abbrev Parents := Table String

/-- One tutorial's claim to a child. -/
def claim (ts : Tutorials) (parents : Parents) (name child : String) : Parents × List Event :=
  if !ts.contains child then
    (parents, [.warn "Missing child tutorial" [("tutorial", name), ("child", child)]])
  else
    match parents.get? child with
    | some first =>
      (parents,
        [.warn "tutorial already has a parent"
          [("child", child), ("parent", first), ("ignored", name)]])
    | none => (parents.insert child name, [])

/-- All claims, in the order in which they are looked at. -/
def claims (ts : Tutorials) : List (String × String) :=
  ts.entries.flatMap fun (name, t) => t.children.map fun child => (name, child)

def parents (ts : Tutorials) : Parents × List Event :=
  ts.claims.foldl
    (fun (parents, log) (name, child) =>
      let (parents, more) := ts.claim parents name child
      (parents, log ++ more))
    (∅, [])

mutual

/-- The tree below one tutorial, and who is in some tree by now; `path` leads to the tutorial.
Children that are in a tree already are left out. -/
def grow (ts : Tutorials) (parents : Parents) (path placed : List String) (name : String) :
    TutorialTree × List String :=
  match _known : ts.get? name with
  | none => ({ name, title := name }, placed)
  | some t =>
    if _fresh : name ∈ path then ({ name, title := t.title, content := t.content }, placed)
    else
      let placed := name :: placed
      let below := t.children.filter fun c => parents.get? c = some name ∧ c ∉ placed
      let (children, placed) := growAll ts parents (name :: path) placed below
      ({ name, title := t.title, content := t.content, children }, placed)
termination_by (ts.sizeWithout path, 0)
decreasing_by exact .left _ _ (Table.sizeWithout_cons_lt (Table.mem_keys_of_get? _known) _fresh)

def growAll (ts : Tutorials) (parents : Parents) (path placed : List String) :
    List String → List TutorialTree × List String
  | [] => ([], placed)
  | name :: rest =>
    let (tree, placed) := grow ts parents path placed name
    let (trees, placed) := growAll ts parents path placed rest
    (tree :: trees, placed)
termination_by names => (ts.sizeWithout path, names.length + 1)

end

/-- Attaches every tutorial of the list that is in no tree yet. -/
def attach (ts : Tutorials) (parents : Parents) (placed : List String) :
    List String → List TutorialTree × List Event
  | [] => ([], [])
  | name :: rest =>
    if name ∈ placed then attach ts parents placed rest
    else
      let (tree, placed) := ts.grow parents [] placed name
      let (trees, log) := attach ts parents placed rest
      (tree :: trees,
        .warn "circular tutorial nesting, attaching to the root" [("tutorial", name)] :: log)

def tree (ts : Tutorials) : TutorialTree × List Event :=
  let (parents, log) := ts.parents
  let free := ts.keys.filter fun name => (parents.get? name).isNone
  let (trees, placed) := ts.growAll parents [] [] free
  let (others, more) := ts.attach parents placed ts.keys
  (.root (trees ++ others), log ++ more)

end Tutorials

namespace TutorialShelf

/-- Applies the settings and builds the tree. -/
def resolved (s : TutorialShelf) : TutorialShelf × List Event :=
  let (tutorials, log) := Tutorials.applyAll s.tutorials s.pending
  let (tree, more) := Tutorials.tree tutorials
  ({ tutorials, pending := [], tree }, log ++ more)

variable {σ : Type}

def resolve (s : TutorialShelf) : Act σ TutorialShelf := do
  let (s, log) := s.resolved
  Act.logAll log
  return s

end TutorialShelf

end RefDoc
