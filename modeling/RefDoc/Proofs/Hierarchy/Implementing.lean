import Mathlib.Data.List.Nodup
import RefDoc.Proofs.Hierarchy.Appending

/-!
# What implements an interface

A class has demands, one for each member of an interface of it: its own member of that name is to be
noted as the implementation (`Collection.demands`). Which demands there are is settled before the
first of them is followed. What a member has to pass on is not, since it may be a member of a class
itself that gets its description on the way; so a new description comes from where a chain of
implementations leads (`Implemented.origin`).
-/

namespace RefDoc

/-- The class `owner` is to implement `model`. -/
structure Demand where
  owner : String
  model : Doclet

/-- The doclet is what the demand asks for. -/
def Doclet.Meets (d : Doclet) (demand : Demand) : Prop :=
  d.memberOf = some demand.owner ∧ d.name = demand.model.name

namespace Doclet

theorem mem_implements_implementing {d m : Doclet} {longname : String} :
    longname ∈ (d.implementing m).implements ↔
      longname ∈ d.implements ∨ m.longname = longname := by
  unfold implementing
  dsimp only
  split
  · rename_i noted
    exact ⟨.inl, fun either => either.elim id fun same => same ▸ noted⟩
  · rw [List.mem_append, List.mem_singleton, eq_comm]

theorem implements_implementing (d m : Doclet) :
    (d.implementing m).implements = d.implements ∨
      m.longname ∉ d.implements ∧ (d.implementing m).implements = d.implements ++ [m.longname] := by
  unfold implementing
  dsimp only
  split
  · exact .inl rfl
  · rename_i fresh
    exact .inr ⟨fresh, rfl⟩

end Doclet

namespace Collection

/-- In a class of the collection, `o` has the name of the member `m` of an interface of that
class. -/
def Implements (c : Collection) (o m : Doclet) : Prop :=
  m ∈ c.doclets ∧ ∃ d ∈ c.doclets, d.kind = .classType ∧ ∃ interface ∈ d.implements,
    m.memberOf = some interface ∧ o.memberOf = some d.longname ∧ o.name = m.name

/-- What the doclet `before` has become when it has been noted as the implementation of all `m` with
`asked before m`. -/
structure Implemented (c : Collection) (asked : Doclet → Doclet → Prop) (before after : Doclet) : Prop
    extends before.Enriches after where
  noted : ∀ longname, longname ∈ after.implements ↔
    longname ∈ before.implements ∨ ∃ m, asked before m ∧ m.longname = longname
  once : ∃ added, after.implements = before.implements ++ added ∧ added.Nodup ∧
    ∀ longname ∈ added, longname ∉ before.implements
  described : ∀ m, asked before m → m.description ≠ none → after.description ≠ none
  /-- A description is that of the doclet itself, or of one that it implements in some steps. -/
  origin : ∀ text, after.description = some text →
    ∃ m, Relation.ReflTransGen c.Implements before m ∧ m.description = some text

/-- The demands that a class makes for one interface. -/
def demandsOf (c : Collection) (i : String × String) : List Demand :=
  (c.membersOf i.2).map fun m => ⟨i.1, m⟩

/-- All demands, in the order in which they are followed. -/
def demands (c : Collection) : List Demand := c.implementations.flatMap c.demandsOf

/-- One of the demands asks `o` to implement `m`. -/
def Asked (demands : List Demand) (o m : Doclet) : Prop :=
  ∃ demand ∈ demands, o.Meets demand ∧ demand.model = m

variable {c c' : Collection} {asked : Doclet → Doclet → Prop} {before after m m' : Doclet}

theorem asked_demands (c : Collection) : Asked c.demands = c.Implements := by
  funext o m
  simp only [Asked, demands, demandsOf, implementations, membersOf, Doclet.Meets, Implements,
    List.mem_flatMap, List.mem_map, List.mem_filter, beq_iff_eq, eq_iff_iff]
  constructor
  · rintro ⟨_, ⟨_, ⟨d, ⟨there, onClass⟩, interface, listed, rfl⟩, m, ⟨here, own⟩, rfl⟩,
      ⟨member, name⟩, rfl⟩
    exact ⟨here, d, there, onClass, interface, listed, own, member, name⟩
  · rintro ⟨here, d, there, onClass, interface, listed, own, member, name⟩
    exact ⟨_, ⟨_, ⟨d, ⟨there, onClass⟩, interface, listed, rfl⟩, m, ⟨here, own⟩, rfl⟩,
      ⟨member, name⟩, rfl⟩

theorem not_asked_nil : ¬ Asked [] before m := fun ⟨_, absent, _⟩ => List.not_mem_nil absent

theorem asked_concat {demands : List Demand} {demand : Demand} :
    Asked (demands ++ [demand]) before m ↔
      Asked demands before m ∨ before.Meets demand ∧ demand.model = m := by
  simp only [Asked, List.mem_append, List.mem_singleton, or_and_right, exists_or, exists_eq_left]

/-! ### Following demands -/

theorem implemented_refl (c : Collection) (d : Doclet) : c.Implemented (Asked []) d d where
  toEnriches := .refl d
  noted longname := by simp [not_asked_nil]
  once := ⟨[], (List.append_nil _).symm, .nil, fun _ absent => absurd absent List.not_mem_nil⟩
  described m asked := absurd asked not_asked_nil
  origin _ own := ⟨d, .refl, own⟩

namespace Implemented

theorem memberOf (h : c.Implemented asked before after) : after.memberOf = before.memberOf := by
  rw [h.same]

theorem name (h : c.Implemented asked before after) : after.name = before.name := by rw [h.same]

theorem longname (h : c.Implemented asked before after) : after.longname = before.longname := by
  rw [h.same]

/-- What is asked for decides, and not how often or when. -/
theorem congr {asked' : Doclet → Doclet → Prop} (h : c.Implemented asked before after)
    (same : ∀ m, asked before m ↔ asked' before m) : c.Implemented asked' before after where
  toEnriches := h.toEnriches
  noted longname := by simp only [h.noted, same]
  once := h.once
  described m asked := h.described m ((same m).mpr asked)
  origin := h.origin

/-- One more implementation is noted. What is noted may have changed since, but its longname has
not, and it still has a description if it had one. -/
theorem note {asked' : Doclet → Doclet → Prop} (h : c.Implemented asked before after)
    (model : c.Implemented asked' m m') (implements : c.Implements before m) :
    c.Implemented (fun o n => asked o n ∨ n = m) before (after.implementing m') where
  toEnriches := h.toEnriches.trans (after.enriches_implementing m')
  noted longname := by
    rw [Doclet.mem_implements_implementing, h.noted, model.longname, or_assoc]
    simp only [or_and_right, exists_or, exists_eq_left]
  once := by
    obtain ⟨added, all, fresh, apart⟩ := h.once
    rcases after.implements_implementing m' with same | ⟨missing, more⟩
    · exact ⟨added, same.trans all, fresh, apart⟩
    · rw [all, List.mem_append, not_or] at missing
      refine ⟨added ++ [m'.longname], by rw [more, all, List.append_assoc], ?_, ?_⟩
      · exact List.nodup_append.mpr ⟨fresh, List.nodup_singleton _, fun l there l' last same =>
          missing.2 (List.mem_singleton.mp last ▸ same ▸ there)⟩
      · exact List.forall_mem_append.mpr ⟨apart, List.forall_mem_singleton.mpr missing.1⟩
  described n asked given := by
    show after.description.or m'.description ≠ none
    rw [Ne, Option.or_eq_none_iff, not_and_or]
    rcases asked with earlier | rfl
    · exact .inl (h.described n earlier given)
    · obtain ⟨text, own⟩ := Option.ne_none_iff_exists'.mp given
      exact .inr (by rw [model.description text own]; exact Option.some_ne_none text)
  origin text own := by
    have either : after.description.or m'.description = some text := own
    rcases Option.or_eq_some_iff.mp either with kept | ⟨-, passed⟩
    · exact h.origin text kept
    · obtain ⟨d, chain, given⟩ := model.origin text passed
      exact ⟨d, .head implements chain, given⟩

end Implemented

/-- What the collection has become when demands of `c` have been followed. -/
structure Followed (c : Collection) (demands : List Demand) (c' : Collection) : Prop where
  index : c'.index = c.index
  doclets : List.Forall₂ (c.Implemented (Asked demands)) c.doclets c'.doclets

variable {demands : List Demand}

theorem followed_refl (c : Collection) : c.Followed [] c :=
  ⟨rfl, List.forall₂_same.mpr fun d _ => implemented_refl c d⟩

/-- The demands on members of one name: `owner` is to implement `m`. -/
theorem Followed.member (h : c.Followed demands c') {demand : Demand} (known : demand ∈ c.demands)
    (model : c.Implemented asked demand.model m') :
    c.Followed (demands ++ [demand]) (implementMember demand.owner c' m') where
  index := h.index
  doclets := by
    refine List.forall₂_map_right_iff.mpr (h.doclets.imp fun before after same => ?_)
    have meets : (after.memberOf == some demand.owner && after.name == m'.name) = true ↔
        before.Meets demand := by
      rw [Bool.and_eq_true, beq_iff_eq, beq_iff_eq, same.memberOf, same.name, model.name]
      rfl
    by_cases own : before.Meets demand
    · rw [if_pos (meets.mpr own)]
      have implements : c.Implements before demand.model :=
        asked_demands c ▸ ⟨demand, known, own, rfl⟩
      exact (same.note model implements).congr fun m => by
        rw [asked_concat, and_iff_right own, eq_comm]
    · rw [if_neg fun met => own (meets.mp met)]
      exact same.congr fun m => by simp [asked_concat, own]

/-- The members of an interface were listed before the first of them was followed. -/
theorem Followed.members (owner : String) {ms ms' : List Doclet}
    (models : List.Forall₂ (c.Implemented asked) ms ms')
    (known : ∀ m ∈ ms, ⟨owner, m⟩ ∈ c.demands) (h : c.Followed demands c') :
    c.Followed (demands ++ ms.map fun m => ⟨owner, m⟩) (ms'.foldl (implementMember owner) c') := by
  induction models generalizing demands c' with
  | nil => simpa using h
  | cons model _ ih =>
    obtain ⟨here, known⟩ := List.forall_mem_cons.mp known
    have later := ih known (h.member here model)
    rwa [List.append_assoc, List.singleton_append] at later

theorem Followed.implement (h : c.Followed demands c') {i : String × String}
    (declared : i ∈ c.implementations) :
    c.Followed (demands ++ c.demandsOf i) (c'.implement i) := by
  have models : List.Forall₂ (c.Implemented (Asked demands)) (c.membersOf i.2)
      (c'.membersOf i.2) :=
    List.rel_filter (fun before after same => by simp only [same.memberOf]) h.doclets
  refine h.members i.1 models fun m member => ?_
  exact List.mem_flatMap_of_mem declared (List.mem_map_of_mem member)

theorem followed_foldl_implement {l : List (String × String)} (declared : l ⊆ c.implementations)
    (h : c.Followed demands c') :
    c.Followed (demands ++ l.flatMap c.demandsOf) (l.foldl Collection.implement c') := by
  induction l generalizing demands c' with
  | nil => simpa using h
  | cons i rest ih =>
    obtain ⟨here, declared⟩ := List.cons_subset.mp declared
    have later := ih declared (h.implement here)
    rwa [List.append_assoc] at later

/-- **All demands are followed.** Where classes implement interfaces, each member of such a class is
noted as the implementation of all members of its name that the interfaces had, and is described if
one of them was. What it implemented before and its description stay; whatever is noted is noted
once, and is the longname of such a member; a description comes from where a chain of implementations
leads. Nothing else changes, the index neither. -/
theorem interfaces_implemented (c : Collection) :
    c.addImplemented.index = c.index ∧
      List.Forall₂ (c.Implemented c.Implements) c.doclets c.addImplemented.doclets := by
  have all : c.Followed c.demands c.addImplemented :=
    followed_foldl_implement (List.Subset.refl _) (followed_refl c)
  exact ⟨all.index, asked_demands c ▸ all.doclets⟩

/-- A shelf is a board, which says how it is hung, and a tray is a shelf. -/
def shelving : Collection :=
  ofList [{ Doclet.named "Shelf" .classType with implements := ["Board"] },
    { Doclet.named "Tray" .classType with implements := ["Shelf"] },
    (Doclet.named "hang" .function).setMemberOf "Tray" .onInstance,
    (Doclet.named "hang" .function).setMemberOf "Shelf" .onInstance,
    { (Doclet.named "hang" .function).setMemberOf "Board" .onInstance with
      description := some "On two nails." }]

/-- The shelf is described by the time the tray is to be like it. -/
example : shelving.addImplemented.doclets.map (fun d => (d.description, d.implements)) =
    [(none, ["Board"]), (none, ["Shelf"]), (some "On two nails.", ["Shelf#hang"]),
      (some "On two nails.", ["Board#hang"]), (some "On two nails.", [])] := by
  decide

end Collection

end RefDoc
