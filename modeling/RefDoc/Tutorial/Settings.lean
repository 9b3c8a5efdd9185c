import RefDoc.Json.Encode

/-!
# Tutorial settings

What a settings file says of one tutorial: its title, and its children, either by name or each with
settings of its own. Inside the children nothing is said of what is wrong, only that something is.
-/

namespace RefDoc

open Json

structure TutorialSettings where
  title : Option String := none
  /-- Children without settings. -/
  named : List String := []
  /-- Children with settings, in the order of their names. -/
  nested : List (String × TutorialSettings) := []
  deriving Repr, Inhabited

namespace TutorialSettings

/-- Whether no two members have that name. -/
def oneAtMost (name : String) (members : List (String × Json)) : Bool :=
  (members.filter (·.1 = name)).length ≤ 1

def title? : Json → Option (Option String)
  | .null => some none
  | .string s => some (some s)
  | _ => none

def names? (items : List Json) : Option (List String) := items.mapM Json.string?

mutual

def ofJson? : Json → Option TutorialSettings
  | .object members =>
    if oneAtMost "title" members && oneAtMost "children" members then do
      let title ← title? ((members.lookup "title").getD .null)
      return { ← childrenMember? members with title }
    else none
  | .array [t] => (fun title => { title }) <$> title? t
  | .array [t, c] => do
    let title ← title? t
    return { ← children? c with title }
  | _ => none

/-- Settings that have children only. -/
def children? : Json → Option TutorialSettings
  | .null => some {}
  | .array items => (fun named => { named }) <$> names? items
  | .object members => (fun l => { nested := (Table.ofList l).entries }) <$> members? members
  | _ => none

/-- The children in the member for them. -/
def childrenMember? : List (String × Json) → Option TutorialSettings
  | [] => some {}
  | (key, v) :: rest => if key = "children" then children? v else childrenMember? rest

def members? : List (String × Json) → Option (List (String × TutorialSettings))
  | [] => some []
  | (key, v) :: rest => do
    let settings ← ofJson? v
    return (key, settings) :: (← members? rest)

end

def readChildren (t : Tree) : Decoded TutorialSettings := do
  match children? (← t.raw) with
  | some s => return s
  | none => .error ⟨"data did not match any variant of untagged enum Children", none⟩

def fields : List (RecordField TutorialSettings) :=
  [.of "title" .optionalMember (readOption readText) fun v s => { s with title := v },
    .of "children" .optional readChildren fun v s => { v with title := s.title }]

def read : Tree → Decoded TutorialSettings := readRecord "TutorialConfig" fields {}

end TutorialSettings

end RefDoc
