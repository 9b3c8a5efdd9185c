import RefDoc.Proofs.Circle
import RefDoc.Proofs.Doclet.Index
import RefDoc.Proofs.Hierarchy.Visits

/-!
# Who is left out for a circle

The search meets a circle where it comes to it first: of all names that lead to the circle it starts
from the first, and what it passes from there to the circle is left out with it. Somebody of every
circle is left out, but not everybody on it: who comes to a name of the circle that is already done
finds nothing wrong with it (`Collection.leftOut_circle`). Where no name has two parents that lead
to circles, that is all, and just the circular names are left out if the search starts on every
circle itself.
-/

namespace RefDoc

open Relation

namespace Ancestry

/-- Following parents from the first name comes to the second. -/
abbrev Leads (a : Ancestry) : String → String → Prop := ReflTransGen a.Augments

/-- Following parents from the name comes back to it. -/
abbrev Circular (a : Ancestry) (name : String) : Prop := TransGen a.Augments name name

/-- The first of the names that lead there. -/
structure FirstTo (a : Ancestry) (name first : String) : Prop where
  leads : a.Leads first name
  least : ∀ other, a.Leads other name → first ≤ other

/-- The name leads to a circle. -/
def Tangled (a : Ancestry) (name : String) : Prop :=
  ∃ circle, a.Leads name circle ∧ a.Circular circle

/-- No two parents of a name lead to circles. -/
def Narrow (a : Ancestry) : Prop :=
  ∀ name parent other, a.Augments name parent → a.Augments name other →
    a.Tangled parent → a.Tangled other → parent = other

/-- The name lies between a circle and the first of the names that lead to that. -/
def OnTheWay (a : Ancestry) (name : String) : Prop :=
  ∃ circle first, a.Circular circle ∧ a.FirstTo circle first ∧ a.Leads first name ∧
    a.Leads name circle

/-- The name has parents and is not in the order. -/
def LeftOut (a : Ancestry) (name : String) : Prop :=
  name ∈ a.keys ∧ ∀ parents, (name, parents) ∉ a.visited.order

variable {a : Ancestry} {name circle first : String} {path done names : List String}
  {ended : List Ended} {ok : Bool}

theorem Circular.known (circular : a.Circular circle) : circle ∈ a.keys := by
  obtain ⟨next, augments, -⟩ := TransGen.head'_iff.mp circular
  exact augments.known

theorem known_of_leads (leads : a.Leads name circle) (circular : a.Circular circle) :
    name ∈ a.keys := by
  rcases leads.cases_head with rfl | ⟨next, augments, -⟩
  · exact Circular.known circular
  · exact augments.known

/-- Who leads to a circular name and can be reached from it is on its circle. -/
theorem Circular.around (circular : a.Circular circle) (there : a.Leads circle name)
    (back : a.Leads name circle) : a.Circular name :=
  (TransGen.trans_right back circular).trans_left there

theorem Visits.ends_known (h : Visits a [] [] a.keys ended ok) (known : name ∈ a.keys) :
    ∃ e ∈ ended, e.name = name := by
  rcases h.covered name known with there | onPath | unknown
  · exact (mem_finish.mp there).resolve_right List.not_mem_nil
  · cases onPath
  · obtain ⟨parents, found⟩ := Table.mem_keys.mp known
    cases unknown.symm.trans found

/-- A known name with which a circle was met is left out, and no other. -/
theorem Visits.met_iff (h : Visits a [] [] a.keys ended ok)
    (order : a.visited.order = (ended.filter (·.acyclic)).map Ended.entry) :
    a.LeftOut name ↔ ∃ e ∈ ended, e.name = name ∧ e.acyclic = false := by
  constructor
  · rintro ⟨known, missing⟩
    obtain ⟨e, member, rfl⟩ := h.ends_known known
    refine ⟨e, member, rfl, Bool.eq_false_iff.mpr fun fine => missing e.parents ?_⟩
    rw [order]
    exact List.mem_map_of_mem (List.mem_filter.mpr ⟨member, fine⟩)
  · rintro ⟨e, member, rfl, met⟩
    refine ⟨Table.mem_keys_of_get? (h.found e member), fun parents entry => ?_⟩
    rw [order] at entry
    obtain ⟨e', kept, same⟩ := List.mem_map.mp entry
    obtain ⟨member', fine⟩ := List.mem_filter.mp kept
    obtain rfl := List.inj_on_of_nodup_map h.nodup member' member (Prod.mk.inj same).1
    exact Bool.eq_false_iff.mp met fine

/-- Somebody of every circle is left out. -/
theorem Circular.leftOut (circular : a.Circular circle) :
    ∃ name, a.Leads circle name ∧ a.Leads name circle ∧ a.LeftOut name := by
  obtain ⟨ended, ok, visits, order⟩ := visits_visited a
  by_contra none
  have fine : ∀ e ∈ ended, a.Leads circle e.name → a.Leads e.name circle → e.acyclic = true := by
    intro e member there back
    by_contra met
    refine none ⟨e.name, there, back, (visits.met_iff order).mpr ⟨e, member, rfl, ?_⟩⟩
    exact Bool.eq_false_iff.mpr met
  obtain ⟨e, member, rfl⟩ := visits.ends_known (Circular.known circular)
  -- each would have a parent on the circle that ended before it
  refine unsupported (l := ended) (r := fun e e' => e.acyclic = true ∧ e'.name ∈ e.parents)
    (P := fun e' => a.Leads e.name e'.name ∧ a.Leads e'.name e.name)
    (visits.ordered.imp fun before related => before related.1 related.2)
    (fun e' member' related => visits.apart e' member' related.1 related.2)
    (fun e' member' ⟨there, back⟩ => ?_) e member ⟨.refl, .refl⟩
  obtain ⟨next, augments, back'⟩ :=
    TransGen.head'_iff.mp (TransGen.trans_right back circular)
  have there' := there.tail augments
  obtain ⟨e'', member'', rfl⟩ := visits.ends_known (known_of_leads back' circular)
  obtain ⟨parents, found, parent⟩ := augments
  obtain rfl := Option.some.inj (found.symm.trans (visits.found e' member'))
  exact ⟨e'', member'', ⟨there', back'⟩, fine e' member' there back, parent⟩

/-- Who is left out has a parent that is. -/
theorem LeftOut.parent (out : a.LeftOut name) : ∃ parent, a.Augments name parent ∧ a.LeftOut parent
    := by
  obtain ⟨ended, ok, visits, order⟩ := visits_visited a
  obtain ⟨e, member, rfl, met⟩ := (visits.met_iff order).mp out
  obtain ⟨parent, there, onPath | tainted⟩ := visits.blamed e member met
  · cases onPath
  · exact ⟨parent, ⟨e.parents, visits.found e member, there⟩, (visits.met_iff order).mpr tainted⟩

/-! ### Where a circle is met first -/

/-- The parents of the names are among them, or have no parents themselves. -/
def Closed (a : Ancestry) (names : List String) : Prop :=
  ∀ name ∈ names, ∀ parent, a.Augments name parent → parent ∈ names ∨ a.get? parent = none

/-- No circle outside can be reached from what is closed. -/
theorem Closed.not_leads (closed : a.Closed done) (circular : a.Circular circle)
    (off : circle ∉ done) (inside : name ∈ done ∨ a.get? name = none) : ¬ a.Leads name circle := by
  intro leads
  induction leads using ReflTransGen.head_induction_on with
  | refl =>
    obtain ⟨parents, found⟩ := Table.mem_keys.mp (Circular.known circular)
    rcases inside with there | unknown
    · exact off there
    · cases unknown.symm.trans found
  | head augments _ ih =>
    rcases inside with there | unknown
    · exact ih (closed _ there _ augments)
    · obtain ⟨parents, found, -⟩ := augments
      cases unknown.symm.trans found

/-- Who is done when visits from no path have ended is closed. -/
theorem Visits.closed_finish (h : Visits a [] done names ended ok) (closed : a.Closed done) :
    a.Closed (finish ended done) := by
  intro x there parent augments
  rcases mem_finish.mp there with ⟨e, member, rfl⟩ | there
  · obtain ⟨parents, found, listed⟩ := augments
    obtain rfl := Option.some.inj (found.symm.trans (h.found e member))
    rcases h.closed e member parent listed with inside | onPath | unknown
    · exact .inl inside
    · cases onPath
    · exact .inr unknown
  · exact (closed x there parent augments).imp_left finish_mono

theorem Visits.leads_circular (h : Visits a [] done names ended ok) {e : Ended} (member : e ∈ ended)
    (met : e.acyclic = false) :
    ∃ circle, a.Leads e.name circle ∧ a.Circular circle ∧ circle ∉ done := by
  let names := (ended.filter (!·.acyclic)).map (·.name)
  have listed {e : Ended} (member : e ∈ ended) (met : e.acyclic = false) : e.name ∈ names :=
    List.mem_map_of_mem (List.mem_filter.mpr ⟨member, by simp [met]⟩)
  have next : ∀ x ∈ names, ∃ y ∈ names, a.Augments x y := by
    intro x there
    obtain ⟨e, kept, rfl⟩ := List.mem_map.mp there
    obtain ⟨member, met⟩ := List.mem_filter.mp kept
    obtain ⟨parent, own, onPath | ⟨e', member', rfl, met'⟩⟩ :=
      h.blamed e member (by simpa using met)
    · cases onPath
    · exact ⟨e'.name, listed member' met', e.parents, h.found e member, own⟩
  obtain ⟨circle, there, leads, circular⟩ := exists_circle next (listed member met)
  obtain ⟨e', kept, rfl⟩ := List.mem_map.mp there
  exact ⟨e'.name, leads, circular, (h.fresh e' (List.mem_filter.mp kept).1).1⟩

/-- A circle is met from the first of the names that lead to it. -/
theorem Visits.first_met (h : Visits a path done names ended ok) (top : path = [])
    (closed : a.Closed done) :
    ∀ e ∈ ended, e.acyclic = false →
      ∃ circle, a.Leads e.name circle ∧ a.Circular circle ∧ circle ∉ done ∧
        ∃ before first after, names = before ++ first :: after ∧ a.Leads first e.name ∧
          (∃ e' ∈ ended, e'.name = first ∧ e'.acyclic = false) ∧
          ∀ other ∈ before, ¬ a.Leads other circle := by
  induction h with
  | nil => nofun
  | pass fine _ ih =>
    intro e member met
    obtain ⟨circle, leads, circular, off, before, first, after, rfl, start, out, nobody⟩ :=
      ih top closed e member met
    exact ⟨circle, leads, circular, off, _ :: before, first, after, rfl, start, out,
      List.forall_mem_cons.mpr ⟨closed.not_leads circular off fine, nobody⟩⟩
  | circle _ onPath =>
    cases top
    cases onPath
  | @enter path done names parents name below ended acyclic ok fresh found off inner _ _ ih =>
    subst top
    have own := Visits.enter fresh found off inner .nil
    have split : below ++ ⟨name, parents, acyclic⟩ :: ended =
        (below ++ [⟨name, parents, acyclic⟩]) ++ ended := by
      rw [List.append_assoc, List.singleton_append]
    rw [split]
    refine List.forall_mem_append.mpr ⟨fun e member met => ?_, fun e member met => ?_⟩
    · obtain ⟨circle, leads, circular, earlier⟩ := own.leads_circular member met
      obtain ⟨start, only, reached⟩ := own.reached e member
      obtain rfl := List.mem_singleton.mp only
      have failed : acyclic = false := by
        refine Bool.eq_false_iff.mpr fun fine => Bool.eq_false_iff.mp met ?_
        exact own.acyclic_of_ok (by rw [fine, Bool.and_true]) e member
      exact ⟨circle, leads, circular, earlier, [], start, names, rfl, reached,
        ⟨_, List.mem_append_left _ (List.mem_append_right _ List.mem_cons_self), rfl, failed⟩,
        nofun⟩
    · have closed' := own.closed_finish closed
      rw [finish_enter] at closed'
      obtain ⟨circle, leads, circular, off', before, first, after, rfl, start, out, nobody⟩ :=
        ih rfl closed' e member met
      obtain ⟨e', member', bad⟩ := out
      have earlier : circle ∉ done := fun there =>
        off' (List.mem_cons_of_mem _ (finish_mono there))
      exact ⟨circle, leads, circular, earlier, name :: before, first, after, rfl, start,
        ⟨e', List.mem_append_right _ member', bad⟩, List.forall_mem_cons.mpr
          ⟨closed'.not_leads circular off' (.inl List.mem_cons_self), nobody⟩⟩

/-- **Why a name is left out.** It leads to a circle, and can be reached from the first of all names
that lead there, which is left out too. -/
theorem LeftOut.from_first (out : a.LeftOut name) :
    ∃ circle first, a.Circular circle ∧ a.FirstTo circle first ∧ a.Leads first name ∧
      a.Leads name circle ∧ a.LeftOut first := by
  obtain ⟨ended, ok, visits, order⟩ := visits_visited a
  obtain ⟨e, member, rfl, met⟩ := (visits.met_iff order).mp out
  obtain ⟨circle, leads, circular, -, before, first, after, split, start, out, nobody⟩ :=
    visits.first_met rfl nofun e member met
  refine ⟨circle, first, circular, ⟨start.trans leads, fun other leads' => ?_⟩, start, leads,
    (visits.met_iff order).mpr out⟩
  have known := known_of_leads leads' circular
  have sorted := a.pairwise_keys
  rw [split] at known sorted
  rcases List.mem_append.mp known with earlier | later
  · exact absurd leads' (nobody other earlier)
  · rcases List.mem_cons.mp later with rfl | later
    · exact String.le_refl _
    · have after := (List.pairwise_cons.mp (List.pairwise_append.mp sorted).2.1).1
      exact Std.le_of_lt (after other later)

theorem LeftOut.onTheWay (out : a.LeftOut name) : a.OnTheWay name := by
  obtain ⟨circle, first, circular, least, start, leads, -⟩ := out.from_first
  exact ⟨circle, first, circular, least, start, leads⟩

theorem Circular.exists_firstTo (circular : a.Circular circle) :
    ∃ first, a.FirstTo circle first ∧ a.LeftOut first := by
  obtain ⟨name, there, back, out⟩ := Circular.leftOut circular
  obtain ⟨circle', first, -, ⟨-, least⟩, start, leads, out'⟩ := out.from_first
  refine ⟨first, ⟨start.trans back, fun other leads' => least other ?_⟩, out'⟩
  exact (leads'.trans there).trans leads

/-- Being left out is passed on to every parent that leads to a circle, if there is one only. -/
theorem LeftOut.onward (narrow : a.Narrow) (out : a.LeftOut first) (leads : a.Leads first name)
    (tangled : a.Tangled name) : a.LeftOut name := by
  induction leads using ReflTransGen.head_induction_on with
  | refl => exact out
  | head augments rest ih =>
    obtain ⟨circle, leads, circular⟩ := tangled
    obtain ⟨parent, augments', out'⟩ := out.parent
    obtain ⟨circle', -, circular', -, -, leads'⟩ := out'.onTheWay
    obtain rfl := narrow _ _ _ augments augments' ⟨circle, rest.trans leads, circular⟩
      ⟨circle', leads', circular'⟩
    exact ih out'

/-- Nothing that leads to a circle leaves the circle it comes from. -/
theorem Narrow.back (narrow : a.Narrow) (circular : a.Circular circle) (leads : a.Leads circle name)
    (tangled : a.Tangled name) : a.Leads name circle := by
  induction leads with
  | refl => exact .refl
  | tail before augments ih =>
    obtain ⟨circle', leads', circular'⟩ := tangled
    have back := ih ⟨circle', .head augments leads', circular'⟩
    obtain ⟨next, augments', back'⟩ := TransGen.head'_iff.mp (TransGen.trans_right back circular)
    obtain rfl := narrow _ _ _ augments augments' ⟨circle', leads', circular'⟩
      ⟨circle, back', circular⟩
    exact back'

end Ancestry

namespace Collection

variable {c : Collection} {name : String}

/-- A doclet of that longname augments others, and the order has no entry for it. -/
def LeftOut (c : Collection) (name : String) : Prop :=
  (∃ d ∈ c.doclets, d.longname = name ∧ d.augments ≠ []) ∧
    ∀ parents, (name, parents) ∉ c.inheritanceOrder

theorem leftOut_iff : c.LeftOut name ↔ c.ancestry.LeftOut name := by
  have known : name ∈ c.ancestry.keys ↔ ∃ d ∈ c.doclets, d.longname = name ∧ d.augments ≠ [] := by
    rw [ancestry, Ancestry.ofDoclets, Table.mem_keys_ofList]
    simp [and_assoc, and_comm]
  rw [LeftOut, Ancestry.LeftOut, known]
  rfl

/-- **Circular inheritance.** Whoever is left out of the order is on the way to a circle from the
first of all names that lead there. That one is always left out, and so is somebody on the circle.
If no name has two parents that lead to circles, everybody on the way is left out; those are just
the names on circles if the first name to every circle is on one. -/
theorem leftOut_circle (c : Collection) :
    (∀ name, c.LeftOut name → c.ancestry.OnTheWay name) ∧
    (∀ circle, c.ancestry.Circular circle →
      (∃ first, c.ancestry.FirstTo circle first ∧ c.LeftOut first) ∧
      ∃ name, c.ancestry.Leads circle name ∧ c.ancestry.Leads name circle ∧ c.LeftOut name) ∧
    (c.ancestry.Narrow →
      (∀ name, c.LeftOut name ↔ c.ancestry.OnTheWay name) ∧
      ((∀ name, c.LeftOut name ↔ c.ancestry.Circular name) ↔
        ∀ circle first, c.ancestry.Circular circle → c.ancestry.FirstTo circle first →
          c.ancestry.Circular first)) := by
  simp only [leftOut_iff]
  generalize c.ancestry = a
  have first_out {circle first : String} (circular : a.Circular circle)
      (least : a.FirstTo circle first) : a.LeftOut first := by
    obtain ⟨first', least', out⟩ := Ancestry.Circular.exists_firstTo circular
    obtain rfl : first' = first :=
      String.le_antisymm (least'.least _ least.leads) (least.least _ least'.leads)
    exact out
  refine ⟨fun name out => out.onTheWay, fun circle circular =>
    ⟨Ancestry.Circular.exists_firstTo circular, Ancestry.Circular.leftOut circular⟩,
    fun narrow => ⟨fun name => ⟨fun out => out.onTheWay, ?_⟩, ?_⟩⟩
  · rintro ⟨circle, first, circular, least, start, leads⟩
    exact (first_out circular least).onward narrow start ⟨circle, leads, circular⟩
  · constructor
    · intro exactly circle first circular least
      exact (exactly first).mp (first_out circular least)
    · refine fun starts name => ⟨fun out => ?_, fun circular => ?_⟩
      · obtain ⟨circle, first, circular, least, start, leads⟩ := out.onTheWay
        have own := starts circle first circular least
        exact Ancestry.Circular.around own start
          (narrow.back own start ⟨circle, leads, circular⟩)
      · obtain ⟨other, -, back, out⟩ := Ancestry.Circular.leftOut circular
        exact out.onward narrow back ⟨name, .refl, circular⟩

/-- Two classes that augment each other, and a third that augments one of them and is augmented by
the other. -/
def knot : Collection :=
  ofList [{ Doclet.named "a" .classType with augments := ["b", "c"] },
    { Doclet.named "b" .classType with augments := ["a"] },
    { Doclet.named "c" .classType with augments := ["b"] }]

/-- The search comes to `c` when `b` is done, and keeps it though it is on the circle through `a`
and `b`. -/
theorem circular_kept_knot :
    ¬ ∀ c : Collection, ∀ name, c.LeftOut name ↔ c.ancestry.Circular name := by
  intro exactly
  have a : knot.ancestry.get? "a" = some ["b", "c"] := rfl
  have b : knot.ancestry.get? "b" = some ["a"] := rfl
  have c : knot.ancestry.get? "c" = some ["b"] := rfl
  have keys : knot.ancestry.keys = ["a", "b", "c"] := rfl
  have order : knot.inheritanceOrder = [("c", ["b"])] := by
    simp [inheritanceOrder, Ancestry.visited, keys, Ancestry.visitAll, Ancestry.visit_done,
      Ancestry.visit_circle, Ancestry.visit_enter, a, b, c]
  have up : knot.ancestry.Augments "c" "b" := ⟨["b"], rfl, by simp⟩
  have across : knot.ancestry.Augments "b" "a" := ⟨["a"], rfl, by simp⟩
  have down : knot.ancestry.Augments "a" "c" := ⟨["b", "c"], rfl, by simp⟩
  have circular : knot.ancestry.Circular "c" := .head up (.head across (.single down))
  refine ((exactly knot "c").mpr circular).2 ["b"] ?_
  rw [order]
  exact List.mem_cons_self

/-- Two classes that augment each other. -/
def pair : Collection :=
  ofList [{ Doclet.named "a" .classType with augments := ["b"] },
    { Doclet.named "b" .classType with augments := ["a"] }]

theorem leftOut_circle_pair :
    pair.ancestry.Narrow ∧ ∀ name, pair.LeftOut name ↔ pair.ancestry.Circular name := by
  have parents : pair.ancestry.entries = [("a", ["b"]), ("b", ["a"])] := rfl
  have augments (child parent : String) : pair.ancestry.Augments child parent ↔
      (child = "a" ∧ parent = "b") ∨ (child = "b" ∧ parent = "a") := by
    simp only [Ancestry.Augments, Table.get?_eq_some_iff, parents]
    aesop
  have narrow : pair.ancestry.Narrow := by
    intro name parent other first second _ _
    rw [augments] at first second
    aesop
  have circular {name : String} (known : name ∈ pair.ancestry.keys) :
      pair.ancestry.Circular name := by
    have there : pair.ancestry.Augments "a" "b" := (augments _ _).mpr (.inl ⟨rfl, rfl⟩)
    have back : pair.ancestry.Augments "b" "a" := (augments _ _).mpr (.inr ⟨rfl, rfl⟩)
    rw [Table.keys, parents] at known
    rcases List.mem_pair.mp known with rfl | rfl
    · exact .head there (.single back)
    · exact .head back (.single there)
  refine ⟨narrow, (((leftOut_circle pair).2.2 narrow).2).mpr fun circle first round least => ?_⟩
  exact circular (Ancestry.known_of_leads least.leads round)

end Collection

end RefDoc
