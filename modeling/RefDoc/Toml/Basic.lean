/-!
# TOML values

What a TOML text says: a table of values by keys. A table remembers how it came to be, since that
decides whether it may be written again; all tables under one header in double brackets are kept
together. Floats and points in time are kept as they are written.
-/

namespace RefDoc

namespace Toml

/-- How a table came to be. -/
inductive TableOrigin where
  /-- By a header of its own. -/
  | header
  /-- By a header of a table within it. -/
  | implied
  /-- By a dotted key. -/
  | dotted
  /-- Written in braces. -/
  | braced
  deriving DecidableEq, Repr, Inhabited

end Toml

inductive Toml where
  | string (value : String)
  | integer (value : Int)
  | float (text : String)
  | bool (value : Bool)
  | moment (text : String)
  | array (items : List Toml)
  | table (origin : Toml.TableOrigin) (members : List (String × Toml))
  /-- The tables under headers in double brackets. -/
  | tables (elements : List (List (String × Toml)))
  deriving Repr, Inhabited

namespace Toml

abbrev Members := List (String × Toml)

namespace Members

/-- Adds a member, in place of one of that key. -/
def set (ms : Members) (key : String) (value : Toml) : Members :=
  if ms.any (·.1 = key) then ms.map fun m => if m.1 = key then (key, value) else m
  else ms ++ [(key, value)]

/-- Changes the members of the table that `path` leads to; `change` is told how that table came to
be. Tables that are missing are made. By keys, only such tables may be changed that dotted keys or
the headers of inner tables have made; of several tables under one header the last one is. -/
def changeAt (byKeys : Bool) (change : TableOrigin → Members → Option Members)
    (origin : TableOrigin) (ms : Members) : List String → Option Members
  | [] => change origin ms
  | key :: path =>
    match ms.lookup key with
    | none => do
      let made : TableOrigin := if byKeys then .dotted else .implied
      return ms.set key (.table made (← changeAt byKeys change made [] path))
    | some (.table inner members) =>
      if inner = .braced || (byKeys && inner = .header) then none
      else do return ms.set key (.table inner (← changeAt byKeys change inner members path))
    | some (.tables elements) => do
      let last ← changeAt byKeys change .header (elements.getLast?.getD []) path
      return ms.set key (.tables (elements.dropLast ++ [last]))
    | some _ => none

/-- Adds a value under a dotted key. No key is given twice, and a table that has a header gets no
further members by dotted keys. -/
def define (origin : TableOrigin) (ms : Members) (path : List String) (value : Toml) :
    Option Members :=
  match path.getLast? with
  | none => none
  | some key =>
    let parents := path.dropLast
    changeAt true
      (fun inner members =>
        if (inner == .dotted) == parents.isEmpty || members.any (·.1 = key) then none
        else some (members ++ [(key, value)]))
      origin ms parents

/-- Adds values one after the other. -/
def defineAll (origin : TableOrigin) (ms : Members) (values : List (List String × Toml)) :
    Option Members :=
  values.foldlM (fun ms v => ms.define origin v.1 v.2) ms

end Members

end Toml

end RefDoc
