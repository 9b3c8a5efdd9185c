import RefDoc.Doclet.Basic

/-!
# Collections

All doclets of a run in the order they were made, and an index from longnames to positions. Adding
a doclet keeps the index current; changing a doclet in place does not, and `reindex` rebuilds it.
-/

namespace RefDoc

structure Collection where
  doclets : List Doclet := []
  index : Table (List Nat) := ∅
  deriving DecidableEq, Repr, Inhabited

namespace Collection

def empty : Collection := {}

/-- The index with one more position for `longname`. -/
def record (index : Table (List Nat)) (longname : String) (position : Nat) : Table (List Nat) :=
  index.insert longname ((index.get? longname).getD [] ++ [position])

def size (c : Collection) : Nat := c.doclets.length

def push (c : Collection) (d : Doclet) : Collection :=
  { doclets := c.doclets ++ [d], index := record c.index d.longname c.size }

def pushAll (c : Collection) (ds : List Doclet) : Collection := ds.foldl push c

def ofList (ds : List Doclet) : Collection := empty.pushAll ds

def reindex (c : Collection) : Collection :=
  { c with index := c.doclets.zipIdx.foldl (fun index (d, i) => record index d.longname i) ∅ }

/-- Changes doclets in place; the index stays as it is. -/
def mapDoclets (c : Collection) (f : Doclet → Doclet) : Collection :=
  { c with doclets := c.doclets.map f }

/-- Changes the doclet at a position; the index stays as it is. -/
def modify (c : Collection) (i : Nat) (f : Doclet → Doclet) : Collection :=
  { c with doclets := c.doclets.modify i f }

def get? (c : Collection) (i : Nat) : Option Doclet := c.doclets[i]?

/-- The positions the index has for a longname. -/
def positions (c : Collection) (longname : String) : List Nat := (c.index.get? longname).getD []

/-- The doclets the index finds for a longname. -/
def byLongname (c : Collection) (longname : String) : List Doclet :=
  (c.positions longname).filterMap c.get?

/-- The direct members of `parent`. -/
def membersOf (c : Collection) (parent : String) : List Doclet :=
  c.doclets.filter (·.memberOf == some parent)

end Collection

end RefDoc
