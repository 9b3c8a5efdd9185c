import RefDoc.Proofs.Hierarchy.Circles
import RefDoc.Proofs.Hierarchy.Inheriting

/-!
# The order of inheritance

The search for the order comes to its end on every hierarchy, circles or not: each name with parents
is entered once and left once (`Ancestry.Visits.perm_keys`). What it leaves is a topological order.
Nobody is in it twice, parents stand before their children, and only circles keep a name out of it
(`Collection.inheritanceOrder_topological`). The hierarchy itself is read off the doclets here
(`Collection.parents?`), so that nothing depends on how it is kept.
-/

namespace RefDoc

open Relation

namespace Ancestry

variable {a : Ancestry} {ended : List Ended} {ok : Bool}

theorem get?_ofDoclets (ds : List Doclet) (name : String) :
    (ofDoclets ds).get? name =
      (ds.reverse.find? fun d => d.longname == name && !d.augments.isEmpty).map (·.augments) := by
  unfold ofDoclets
  rw [Table.get?_ofList, ← List.map_reverse, ← List.filter_reverse]
  induction ds.reverse with
  | nil => rfl
  | cons d rest ih =>
    cases bare : d.augments.isEmpty with
    | true =>
      rw [List.filter_cons_of_neg (by simp [bare]), List.find?_cons_of_neg (by simp [bare]), ih]
    | false =>
      rw [List.filter_cons_of_pos (by simp [bare]), List.map_cons, Table.lookup_cons_eq]
      by_cases here : d.longname = name
      · rw [if_pos here.symm, List.find?_cons_of_pos (by simp [here, bare]), Option.map_some]
      · rw [if_neg (Ne.symm here), List.find?_cons_of_neg (by simp [here]), ih]

/-- Whoever has parents is visited to the end, and nobody is twice. -/
theorem Visits.perm_keys (h : Visits a [] [] a.keys ended ok) :
    (ended.map (·.name)).Perm a.keys := by
  refine (List.perm_ext_iff_of_nodup h.nodup a.nodup_keys).mpr fun name => ?_
  rw [List.mem_map]
  constructor
  · rintro ⟨e, member, rfl⟩
    exact Table.mem_keys_of_get? (h.found e member)
  · exact h.ends_known

end Ancestry

namespace Collection

variable {c : Collection} {name : String}

/-- The parents that the last doclet of the longname has which augments anything. -/
def parents? (c : Collection) (name : String) : Option (List String) :=
  (c.doclets.reverse.find? fun d => d.longname == name && !d.augments.isEmpty).map (·.augments)

/-- The parent is one of the child's. -/
def Augments (c : Collection) (child parent : String) : Prop :=
  ∃ parents, c.parents? child = some parents ∧ parent ∈ parents

theorem get?_ancestry (c : Collection) (name : String) : c.ancestry.get? name = c.parents? name :=
  Ancestry.get?_ofDoclets c.doclets name

theorem augments_ancestry (c : Collection) : c.ancestry.Augments = c.Augments := by
  funext child parent
  simp only [Ancestry.Augments, Augments, get?_ancestry]

theorem nodup_inheritanceOrder (c : Collection) : (c.inheritanceOrder.map (·.1)).Nodup := by
  obtain ⟨ended, ok, visits, order⟩ := Ancestry.visits_visited c.ancestry
  have sub : (c.inheritanceOrder.map (·.1)).Sublist (ended.map (·.name)) := by
    rw [inheritanceOrder, order, List.map_map]
    exact List.filter_sublist.map _
  exact visits.nodup.sublist sub

theorem parents?_of_mem_order {e : String × List String} (entry : e ∈ c.inheritanceOrder) :
    c.parents? e.1 = some e.2 := by
  obtain ⟨ended, ok, visits, order⟩ := Ancestry.visits_visited c.ancestry
  rw [inheritanceOrder, order] at entry
  obtain ⟨e, kept, rfl⟩ := List.mem_map.mp entry
  rw [← get?_ancestry]
  exact visits.found e (List.mem_filter.mp kept).1

theorem parent_before {before after : List (String × List String)} {e : String × List String}
    (split : c.inheritanceOrder = before ++ e :: after) {parent : String} (own : parent ∈ e.2)
    (there : parent ∈ c.inheritanceOrder.map (·.1)) : parent ∈ before.map (·.1) := by
  obtain ⟨ordered, apart⟩ := pairwise_inheritanceOrder c
  rw [split] at ordered apart there
  have behind := (List.pairwise_cons.mp (List.pairwise_append.mp ordered).2.1).1
  rw [List.map_append, List.map_cons, List.mem_append, List.mem_cons] at there
  rcases there with earlier | rfl | later
  · exact earlier
  · exact absurd own (apart e (List.mem_append_right _ List.mem_cons_self))
  · obtain ⟨e', member, rfl⟩ := List.mem_map.mp later
    exact absurd own (behind e' member)

/-- Who is left out comes to a circle by its ancestors. -/
theorem LeftOut.comes_to_circle (out : c.LeftOut name) :
    ∃ circle, ReflTransGen c.Augments name circle ∧ TransGen c.Augments circle circle := by
  obtain ⟨circle, -, circular, -, -, leads⟩ := (leftOut_iff.mp out).onTheWay
  rw [← augments_ancestry]
  exact ⟨circle, leads, circular⟩

/-- **A topological order.** The search ends on every hierarchy, after one visit to each name with
parents. In the order that it finds no name is twice, every entry has the parents that the last
doclet of the name says, a parent that is there too stands before its child, and who augments
anything is there unless a circle can be reached from it. -/
theorem inheritanceOrder_topological (c : Collection) :
    (∃ ended ok, Ancestry.Visits c.ancestry [] [] c.ancestry.keys ended ok ∧
      (ended.map (·.name)).Perm c.ancestry.keys ∧
      c.inheritanceOrder = (ended.filter (·.acyclic)).map Ancestry.Ended.entry) ∧
    (c.inheritanceOrder.map (·.1)).Nodup ∧
    (∀ e ∈ c.inheritanceOrder, c.parents? e.1 = some e.2) ∧
    (∀ before e after, c.inheritanceOrder = before ++ e :: after → ∀ parent ∈ e.2,
      parent ∈ c.inheritanceOrder.map (·.1) → parent ∈ before.map (·.1)) ∧
    ∀ d ∈ c.doclets, d.augments ≠ [] →
      (∀ circle, ReflTransGen c.Augments d.longname circle → ¬ TransGen c.Augments circle circle) →
      d.longname ∈ c.inheritanceOrder.map (·.1) := by
  refine ⟨?_, nodup_inheritanceOrder c, fun e => parents?_of_mem_order,
    fun before e after split parent own there => parent_before split own there,
    fun d member augments straight => ?_⟩
  · obtain ⟨ended, ok, visits, order⟩ := Ancestry.visits_visited c.ancestry
    exact ⟨ended, ok, visits, visits.perm_keys, order⟩
  · by_contra missing
    have out : c.LeftOut d.longname :=
      ⟨⟨d, member, rfl, augments⟩, fun parents entry => missing (List.mem_map_of_mem entry)⟩
    obtain ⟨circle, leads, circular⟩ := out.comes_to_circle
    exact straight circle leads circular

/-- A rectangle is a shape, of which nothing is documented; beside it is a class that augments
itself. -/
def beside : Collection :=
  ofList [{ Doclet.named "Rect" .classType with augments := ["Shape"] },
    { Doclet.named "Loop" .classType with augments := ["Loop"] }]

theorem inheritanceOrder_topological_beside :
    (∀ circle, ReflTransGen beside.Augments "Rect" circle →
      ¬ TransGen beside.Augments circle circle) ∧
    "Rect" ∈ beside.inheritanceOrder.map (·.1) := by
  have rect : beside.parents? "Rect" = some ["Shape"] := by decide
  have shape : beside.parents? "Shape" = none := by decide
  have top (other : String) : ¬ beside.Augments "Shape" other := by
    rintro ⟨parents, found, -⟩
    cases shape.symm.trans found
  have only {other : String} (augments : beside.Augments "Rect" other) : other = "Shape" := by
    obtain ⟨parents, found, own⟩ := augments
    cases rect.symm.trans found
    exact List.mem_singleton.mp own
  have straight (circle : String) (leads : ReflTransGen beside.Augments "Rect" circle) :
      ¬ TransGen beside.Augments circle circle := by
    intro circular
    obtain ⟨next, first, back⟩ := TransGen.head'_iff.mp circular
    rcases leads.cases_head with rfl | ⟨parent, own, up⟩
    · obtain rfl := only first
      rcases back.cases_head with same | ⟨other, above, -⟩
      · exact absurd same (by decide)
      · exact top other above
    · obtain rfl := only own
      rcases up.cases_head with rfl | ⟨other, above, -⟩
      · exact top next first
      · exact top other above
  exact ⟨straight, (inheritanceOrder_topological beside).2.2.2.2 _ List.mem_cons_self (by decide)
    straight⟩

end Collection

end RefDoc
