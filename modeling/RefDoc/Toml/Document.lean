import RefDoc.Toml.Scalar

/-!
# TOML texts

A text is a list of entries, one a line: a header opens a table, and a key with a value belongs to
the table opened last. Values may be arrays and tables in braces.
-/

namespace RefDoc.Toml

namespace Scanner

variable {α : Type}

/-- Items with commas between them up to the closing bracket, which `trailing` allows a comma
before; `between` stands around items. -/
def listFrom (trailing : Bool) (close : Char) (between : Scanner Unit) (item : Scanner α)
    (cs : List Char) : Option (List α × List Char) := do
  let (a, afterItem) ← item cs
  let ((), rest) ← between afterItem
  match rest with
  | c :: rest =>
    if c = close then some ([a], rest)
    else if c = ',' then do
      let ((), next) ← between rest
      if trailing && next.head? == some close then some ([a], next.drop 1)
      else if next.length < cs.length then do
        let (as, rest) ← listFrom trailing close between item next
        some (a :: as, rest)
      else none
    else none
  | [] => none
termination_by cs.length

/-- Items between brackets. -/
def bracketed (trailing : Bool) (opening close : Char) (between : Scanner Unit)
    (item : Scanner α) : Scanner (List α) := do
  char opening
  between
  let items : Scanner (List α) := listFrom trailing close between item
  (do char close; return []) <|> items

/-- A key and its value. -/
def keyValue (value : Scanner Toml) : Scanner (List String × Toml) := do
  let path ← key
  char '='
  space
  return (path, ← value)

/-- A value with at most that many open brackets. -/
def value : Nat → Scanner Toml
  | 0 => scalar
  | depth + 1 => fun cs =>
    match cs.head? with
    | some '[' => (.array <$> bracketed true '[' ']' trivia (value depth)) cs
    | some '\x7b' => inBraces (keyValue (value depth)) cs
    | _ => scalar cs
where
  /-- A table in braces, which stands on one line. -/
  inBraces (entry : Scanner (List String × Toml)) : Scanner Toml := do
    let entries ← bracketed false '\x7b' '\x7d' space entry
    match Members.defineAll .braced [] entries with
    | some ms => return .table .braced ms
    | none => failure

inductive Entry where
  | header (path : List String)
  | repeatedHeader (path : List String)
  | value (path : List String) (value : Toml)

def entry : Scanner Entry :=
  (do
    token ['[', '[']
    let path ← key
    token [']', ']']
    return .repeatedHeader path) <|>
  (do
    char '['
    let path ← key
    char ']'
    return .header path) <|>
  (do
    let (path, value) ← keyValue (value depthLimit)
    return .value path value)

/-- A line, which may hold nothing. -/
def line : Scanner (Option Entry) := do
  space
  let e ← optional entry
  lineEnd
  return e

end Scanner

open Scanner

/-- A header with the values under it. -/
structure Section where
  path : List String
  repeated : Bool
  values : List (List String × Toml)

/-- The values before the first header, and the sections. -/
def sections : List Entry → List (List String × Toml) × List Section
  | [] => ([], [])
  | .value path v :: rest =>
    let (values, others) := sections rest
    ((path, v) :: values, others)
  | .header path :: rest =>
    let (values, others) := sections rest
    ([], ⟨path, false, values⟩ :: others)
  | .repeatedHeader path :: rest =>
    let (values, others) := sections rest
    ([], ⟨path, true, values⟩ :: others)

/-- Adds the table of a section. A header may open a table that inner headers have made, but no
other that is there. -/
def addSection (root : Members) (s : Section) : Option Members :=
  match s.path.getLast? with
  | none => none
  | some key =>
    Members.changeAt false
      (fun _ ms =>
        match s.repeated, ms.lookup key with
        | true, none => do return ms.set key (.tables [← Members.defineAll .header [] s.values])
        | true, some (.tables elements) => do
          return ms.set key (.tables (elements ++ [← Members.defineAll .header [] s.values]))
        | false, none => do
          return ms.set key (.table .header (← Members.defineAll .header [] s.values))
        | false, some (.table .implied members) => do
          return ms.set key (.table .header (← Members.defineAll .header members s.values))
        | _, _ => none)
      .header root s.path.dropLast

def ofEntries (entries : List Entry) : Option Members := do
  let (values, sections) := sections entries
  sections.foldlM addSection (← Members.defineAll .header [] values)

/-- The members of the table that a text stands for. A byte order mark in front does not count. -/
def ofText? (text : String) : Option Members := do
  let cs :=
    match text.toList with
    | '\ufeff' :: rest => rest
    | cs => cs
  let (entries, rest) := manyFrom line cs
  if rest.isEmpty then ofEntries (entries.filterMap id) else none

end RefDoc.Toml
