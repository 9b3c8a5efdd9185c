import Mathlib.Logic.Relation
import RefDoc.Comment.Tags
import RefDoc.Proofs.Doclet.Index

/-!
# Coherent names

The longname of a doclet follows from its name and from whose member it is. That is so for every
doclet a comment makes (`coherent_docletOf?`) and for every doclet that has just become a member
(`coherent_setMemberOf`); whatever leaves the naming of a doclet alone keeps it so.
-/

namespace RefDoc

/-- What a doclet is called, and whose member it is. -/
structure Naming where
  name : String
  longname : String
  memberOf : Option String
  scope : Option Scope

/-- The longname is the name, or what the parent, the scope and the name make it. -/
def Naming.Coherent (n : Naming) : Prop :=
  (n.memberOf = none ∧ n.longname = n.name) ∨
    ∃ parent scope, n.memberOf = some parent ∧ n.scope = some scope ∧
      n.longname = parent ++ scope.separator ++ n.name

theorem Scope.length_separator (s : Scope) : s.separator.length = 1 := by
  cases s <;> rfl

theorem Naming.Coherent.length_lt {n : Naming} (h : n.Coherent) {parent : String}
    (member : n.memberOf = some parent) : parent.length < n.longname.length := by
  rcases h with ⟨none, -⟩ | ⟨owner, scope, some, -, longname⟩
  · rw [none] at member
    cases member
  · cases some.symm.trans member
    rw [longname, String.length_append, String.length_append, scope.length_separator]
    omega

namespace Doclet

def naming (d : Doclet) : Naming := ⟨d.name, d.longname, d.memberOf, d.scope⟩

theorem coherent_setMemberOf (d : Doclet) (parent : String) (scope : Scope) :
    (d.setMemberOf parent scope).naming.Coherent :=
  .inr ⟨parent, scope, rfl, rfl, rfl⟩

end Doclet

namespace Comment

theorem coherent_doclet (draft : Draft) (name : String) (text : List Char) :
    (draft.doclet name text).naming.Coherent := by
  unfold Draft.doclet
  cases draft.memberOf with
  | none => exact .inl ⟨rfl, rfl⟩
  | some parent => exact Doclet.coherent_setMemberOf _ parent _

/-- Whatever tags and code say, the doclet they make has a coherent name. -/
theorem coherent_docletOf? {comment : List Char} {next : Option (List Char)} {d : Doclet}
    (h : docletOf? comment next = some d) : d.naming.Coherent := by
  obtain ⟨name, -, rfl⟩ := Option.map_eq_some_iff.1 h
  exact coherent_doclet _ name _

end Comment

namespace Collection

/-- Every doclet is coherent. -/
def Coherent (c : Collection) : Prop := ∀ d ∈ c.doclets, d.naming.Coherent

theorem coherent_empty : empty.Coherent := fun _ h => absurd h List.not_mem_nil

theorem Coherent.push {c : Collection} (h : c.Coherent) {d : Doclet} (coherent : d.naming.Coherent) :
    (c.push d).Coherent := by
  intro e he
  rcases List.mem_append.1 he with old | new
  · exact h e old
  · exact List.mem_singleton.1 new ▸ coherent

/-- Every doclet but the one at `position` is coherent, and that one is named like `package`. -/
structure CoherentBeside (c : Collection) (position : Nat) (package : Doclet) : Prop where
  package : (c.get? position).map (·.naming) = some package.naming
  others : ∀ i d, c.get? i = some d → i ≠ position → d.naming.Coherent

namespace CoherentBeside

variable {c : Collection} {position : Nat} {package : Doclet}

theorem of_coherent (h : c.Coherent) (package : Doclet) :
    (c.push package).CoherentBeside c.size package where
  package := by rw [get?_push, if_pos rfl]; rfl
  others i d hd other := by
    rw [get?_push, if_neg other] at hd
    exact h d (List.mem_of_getElem? hd)

theorem lt_size (h : c.CoherentBeside position package) : position < c.size := by
  obtain ⟨d, hd, -⟩ := Option.map_eq_some_iff.1 h.package
  exact lt_size_of_get? hd

theorem push (h : c.CoherentBeside position package) {d : Doclet} (coherent : d.naming.Coherent) :
    (c.push d).CoherentBeside position package where
  package := by
    rw [get?_push, if_neg (Nat.ne_of_lt h.lt_size)]
    exact h.package
  others i e he other := by
    rw [get?_push] at he
    split at he
    · cases he
      exact coherent
    · exact h.others i e he other

theorem pushAll (h : c.CoherentBeside position package) {ds : List Doclet}
    (coherent : ∀ d ∈ ds, d.naming.Coherent) : (c.pushAll ds).CoherentBeside position package := by
  induction ds generalizing c with
  | nil => exact h
  | cons d rest ih =>
    exact ih (h.push (coherent d List.mem_cons_self)) fun e he =>
      coherent e (List.mem_cons_of_mem _ he)

theorem mapDoclets (h : c.CoherentBeside position package) {f : Doclet → Doclet}
    (keeps : ∀ d, (f d).naming = d.naming) : (c.mapDoclets f).CoherentBeside position package := by
  have at_ (i : Nat) : (c.mapDoclets f).get? i = (c.get? i).map f := List.getElem?_map ..
  refine ⟨?_, fun i e he other => ?_⟩
  · simp only [at_, Option.map_map, Function.comp_def, keeps]
    exact h.package
  · rw [at_] at he
    obtain ⟨d, hd, rfl⟩ := Option.map_eq_some_iff.1 he
    rw [keeps]
    exact h.others i d hd other

theorem length_lt (h : c.CoherentBeside position package) (top : package.memberOf = none)
    {d : Doclet} (hd : d ∈ c.doclets) {parent : String} (member : d.memberOf = some parent) :
    parent.length < d.longname.length := by
  obtain ⟨i, hi⟩ := List.mem_iff_getElem?.1 hd
  by_cases here : i = position
  · subst here
    have named := h.package
    rw [show c.get? i = some d from hi] at named
    have none : d.memberOf = none := (congrArg Naming.memberOf (Option.some.inj named)).trans top
    rw [none] at member
    cases member
  · exact (h.others i d hi here).length_lt member

end CoherentBeside

/-- Some doclet of the longname `child` is a member of `parent`. -/
def Below (c : Collection) (child parent : String) : Prop :=
  ∃ d ∈ c.doclets, d.longname = child ∧ d.memberOf = some parent

theorem not_own_ancestor {c : Collection}
    (longer : ∀ d ∈ c.doclets, ∀ parent, d.memberOf = some parent →
      parent.length < d.longname.length)
    (longname : String) : ¬ Relation.TransGen c.Below longname longname := by
  have shorter : ∀ {a b}, Relation.TransGen c.Below a b → b.length < a.length := by
    intro a b h
    induction h with
    | single last =>
      obtain ⟨d, hd, rfl, member⟩ := last
      exact longer d hd _ member
    | tail _ last ih =>
      obtain ⟨d, hd, rfl, member⟩ := last
      exact Nat.lt_trans (longer d hd _ member) ih
  exact fun h => Nat.lt_irrefl _ (shorter h)

end Collection

end RefDoc
