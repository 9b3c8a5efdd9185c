import RefDoc.Json.Encode

/-!
# Tutorials

Tutorials are texts beside the reference. They form a tree; its root stands for all of them and has
neither name nor text of its own.
-/

namespace RefDoc

open Json

structure TutorialTree where
  name : String
  title : String
  /-- The text as HTML. -/
  content : String := ""
  children : List TutorialTree := []
  deriving Repr, Inhabited

namespace TutorialTree

def root (children : List TutorialTree) : TutorialTree := { name := "", title := "", children }

mutual

/-- The first tutorial of that name, a tutorial coming before those below it. -/
def find? (name : String) : TutorialTree → Option TutorialTree
  | ⟨own, title, content, children⟩ =>
    if own = name then some ⟨own, title, content, children⟩ else findAmong? name children

def findAmong? (name : String) : List TutorialTree → Option TutorialTree
  | [] => none
  | t :: rest => (find? name t).or (findAmong? name rest)

end

mutual

def names : TutorialTree → List String
  | ⟨name, _, _, children⟩ => name :: namesAmong children

def namesAmong : List TutorialTree → List String
  | [] => []
  | t :: rest => names t ++ namesAmong rest

end

mutual

/-- Empty text and the lack of children are left out. -/
def toJson : TutorialTree → Json
  | ⟨name, title, content, children⟩ =>
    .object ([("name", .string name), ("title", .string title)] ++
      (if content.isEmpty then [] else [("content", .string content)]) ++
      if children.isEmpty then [] else [("children", .array (jsonItems children))])

def jsonItems : List TutorialTree → List Json
  | [] => []
  | t :: rest => toJson t :: jsonItems rest

end

end TutorialTree

end RefDoc
