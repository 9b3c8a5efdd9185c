import RefDoc.Doclet.Collection
import RefDoc.Report.Event

/-!
# Borrowed members

A symbol may borrow any other symbol as a member, under a name of its own. The first doclet with the
longname of the source is copied; where there is none, nothing is borrowed.
-/

namespace RefDoc

namespace Borrow

/-- The scope that the first character of a name stands for, and the bare name. -/
def scopedName (name : String) : Scope × String :=
  match name.toList with
  | '#' :: rest => (.onInstance, String.ofList rest)
  | '~' :: rest => (.inner, String.ofList rest)
  | '.' :: rest => (.static, String.ofList rest)
  | _ => (.static, name)

/-- The borrowed member. -/
def copy (b : Borrow) (borrower : String) (source : Doclet) : Doclet :=
  let (scope, name) := scopedName b.asName
  { source with name }.setMemberOf borrower scope

end Borrow

namespace Collection

/-- Every borrow with the longname of the borrower. -/
def borrows (c : Collection) : List (String × Borrow) :=
  c.doclets.flatMap fun d => d.borrowed.map fun b => (d.longname, b)

def borrowedCopy? (c : Collection) (borrower : String) (b : Borrow) : Option Doclet :=
  (c.byLongname b.source).head?.map (b.copy borrower)

/-- The members that borrows make. -/
def borrowedCopies (c : Collection) : List Doclet :=
  c.borrows.filterMap fun (borrower, b) => c.borrowedCopy? borrower b

/-- The borrows without a source. -/
def lostBorrows (c : Collection) : List (String × Borrow) :=
  c.borrows.filter fun (borrower, b) => (c.borrowedCopy? borrower b).isNone

/-- Makes the borrowed members, behind all doclets that were there. Those have nothing left to
borrow, but a member that is made has what its source had. -/
def resolveBorrows (c : Collection) : Collection × List Event :=
  let copies := c.borrowedCopies
  let lost := c.lostBorrows.map fun (borrower, b) =>
    .debug "borrow source not found" [("from", b.source), ("borrower", borrower)]
  ((c.mapDoclets fun d => { d with borrowed := [] }).pushAll copies,
    lost ++ [.debug "resolved borrows" [("borrowed", toString copies.length)]])

end Collection

end RefDoc
