import Mathlib.Logic.Relation
import RefDoc.Hierarchy.Inheritance
import RefDoc.Proofs.Table

/-!
# Visits of a hierarchy

Visiting names depth first, each visit that comes to its end says of a name with parents whether a
circle was met on the way (`Ancestry.Ended`). `Ancestry.Visits` is the search as a relation between
the names to visit and the visits that end, in their order; `Ancestry.visits_visited` says that the
order of inheritance is made of those that met no circle. Everything else is read off the relation:
which parents a visit found ended (`Visits.settled`, `Visits.ordered`), and which of them it can
blame for a circle (`Visits.blamed`).
-/

namespace RefDoc.Ancestry

/-- The parent is one of those that the hierarchy has for the child. -/
def Augments (a : Ancestry) (child parent : String) : Prop :=
  ∃ parents, a.get? child = some parents ∧ parent ∈ parents

theorem Augments.known {a : Ancestry} {child parent : String} (h : a.Augments child parent) :
    child ∈ a.keys := by
  obtain ⟨parents, found, -⟩ := h
  exact Table.mem_keys_of_get? found

/-- A visit that has come to its end. -/
structure Ended where
  name : String
  parents : List String
  /-- No circle was met. -/
  acyclic : Bool

/-- The name in the order of inheritance. -/
def Ended.entry (e : Ended) : String × List String := (e.name, e.parents)

/-- Who is done when the visits have ended. -/
def finish (ended : List Ended) (done : List String) : List String :=
  (ended.map (·.name)).reverse ++ done

/-- Visiting the names, `path` leading to them, with the visits that end meanwhile and whether no
circle was met. -/
inductive Visits (a : Ancestry) :
    List String → List String → List String → List Ended → Bool → Prop
  | nil {path done : List String} : Visits a path done [] [] true
  /-- Who is done or has no parents is fine. -/
  | pass {path done names : List String} {name : String} {ended : List Ended} {ok : Bool} :
      name ∈ done ∨ a.get? name = none → Visits a path done names ended ok →
      Visits a path done (name :: names) ended ok
  | circle {path done names : List String} {name : String} {ended : List Ended} {ok : Bool} :
      name ∉ done → name ∈ path → Visits a path done names ended ok →
      Visits a path done (name :: names) ended false
  | enter {path done names parents : List String} {name : String} {below ended : List Ended}
      {acyclic ok : Bool} :
      name ∉ done → a.get? name = some parents → name ∉ path →
      Visits a (name :: path) done parents below acyclic →
      Visits a path (name :: finish below done) names ended ok →
      Visits a path done (name :: names) (below ++ ⟨name, parents, acyclic⟩ :: ended)
        (acyclic && ok)

variable {a : Ancestry} {path done names names' : List String} {ended ended' : List Ended}
  {ok ok' : Bool}

theorem mem_finish {x : String} : x ∈ finish ended done ↔ (∃ e ∈ ended, e.name = x) ∨ x ∈ done := by
  simp [finish]

theorem finish_append : finish (ended ++ ended') done = finish ended' (finish ended done) := by
  simp [finish]

theorem finish_cons {e : Ended} : finish (e :: ended) done = finish ended (e.name :: done) := by
  simp [finish]

/-- Who is done when a visit has ended, and those after it. -/
theorem finish_enter {e : Ended} :
    finish (ended' ++ e :: ended) done = finish ended (e.name :: finish ended' done) := by
  rw [finish_append, finish_cons]

theorem finish_mono {x : String} (h : x ∈ done) : x ∈ finish ended done :=
  mem_finish.mpr (.inr h)

namespace Visits

theorem append (h : Visits a path done names ended ok)
    (h' : Visits a path (finish ended done) names' ended' ok') :
    Visits a path done (names ++ names') (ended ++ ended') (ok && ok') := by
  induction h with
  | nil => exact h'
  | pass fine _ ih => exact .pass fine (ih h')
  | circle fresh met _ ih => exact .circle fresh met (ih h')
  | enter fresh found off below _ _ ih =>
    rw [finish_enter] at h'
    rw [List.append_assoc, Bool.and_assoc]
    exact .enter fresh found off below (ih h')

/-! ### What visits end -/

theorem found (h : Visits a path done names ended ok) :
    ∀ e ∈ ended, a.get? e.name = some e.parents := by
  induction h with
  | nil => nofun
  | pass _ _ ih => exact ih
  | circle _ _ _ ih => exact ih
  | enter _ found _ _ _ below ih =>
    exact List.forall_mem_append.mpr ⟨below, List.forall_mem_cons.mpr ⟨found, ih⟩⟩

/-- What ends was neither done before nor on the path. -/
theorem fresh (h : Visits a path done names ended ok) :
    ∀ e ∈ ended, e.name ∉ done ∧ e.name ∉ path := by
  induction h with
  | nil => nofun
  | pass _ _ ih => exact ih
  | circle _ _ _ ih => exact ih
  | enter fresh _ off _ _ below ih =>
    refine List.forall_mem_append.mpr ⟨fun e member => ?_,
      List.forall_mem_cons.mpr ⟨⟨fresh, off⟩, fun e member => ?_⟩⟩
    · exact ⟨(below e member).1, List.not_mem_of_not_mem_cons (below e member).2⟩
    · obtain ⟨fresh, off⟩ := ih e member
      exact ⟨fun there => fresh (List.mem_cons_of_mem _ (mem_finish.mpr (.inr there))), off⟩

theorem nodup (h : Visits a path done names ended ok) : (ended.map (·.name)).Nodup := by
  induction h with
  | nil => exact .nil
  | pass _ _ ih => exact ih
  | circle _ _ _ ih => exact ih
  | @enter path done names parents name below ended acyclic ok fresh _ _ inner outer below_h ih =>
    rw [List.map_append, List.map_cons, List.nodup_append, List.nodup_cons]
    refine ⟨below_h, ⟨fun again => ?_, ih⟩, ?_⟩
    · obtain ⟨e, member, same⟩ := List.mem_map.mp again
      exact (outer.fresh e member).1 (same ▸ List.mem_cons_self)
    · rintro x here _ there rfl
      obtain ⟨e, member, rfl⟩ := List.mem_map.mp here
      rcases List.mem_cons.mp there with same | there
      · exact (inner.fresh e member).2 (same ▸ List.mem_cons_self)
      · obtain ⟨e', member', same⟩ := List.mem_map.mp there
        refine (outer.fresh e' member').1 (List.mem_cons_of_mem _ (mem_finish.mpr (.inl ?_)))
        exact ⟨e, member, same.symm⟩

/-- Whose visit ends can be reached from the names. -/
theorem reached (h : Visits a path done names ended ok) :
    ∀ e ∈ ended, ∃ name ∈ names, Relation.ReflTransGen a.Augments name e.name := by
  induction h with
  | nil => nofun
  | pass _ _ ih =>
    intro e member
    obtain ⟨name, there, leads⟩ := ih e member
    exact ⟨name, List.mem_cons_of_mem _ there, leads⟩
  | circle _ _ _ ih =>
    intro e member
    obtain ⟨name, there, leads⟩ := ih e member
    exact ⟨name, List.mem_cons_of_mem _ there, leads⟩
  | enter _ found _ _ _ below ih =>
    refine List.forall_mem_append.mpr ⟨fun e member => ?_,
      List.forall_mem_cons.mpr ⟨⟨_, List.mem_cons_self, .refl⟩, fun e member => ?_⟩⟩
    · obtain ⟨parent, there, leads⟩ := below e member
      exact ⟨_, List.mem_cons_self, .head ⟨_, found, there⟩ leads⟩
    · obtain ⟨name, there, leads⟩ := ih e member
      exact ⟨name, List.mem_cons_of_mem _ there, leads⟩

/-- Every name is taken care of: it is done in the end, or on the path, or has no parents. -/
theorem covered (h : Visits a path done names ended ok) :
    ∀ name ∈ names, name ∈ finish ended done ∨ name ∈ path ∨ a.get? name = none := by
  induction h with
  | nil => nofun
  | pass fine _ ih =>
    refine List.forall_mem_cons.mpr ⟨?_, ih⟩
    rcases fine with there | unknown
    · exact .inl (mem_finish.mpr (.inr there))
    · exact .inr (.inr unknown)
  | circle _ met _ ih => exact List.forall_mem_cons.mpr ⟨.inr (.inl met), ih⟩
  | enter _ _ _ _ _ _ ih =>
    rw [finish_enter]
    exact List.forall_mem_cons.mpr ⟨.inl (finish_mono List.mem_cons_self), ih⟩

theorem covered_of_ok (h : Visits a path done names ended ok) (fine : ok = true) :
    ∀ name ∈ names, name ∈ finish ended done ∨ a.get? name = none := by
  induction h with
  | nil => nofun
  | pass known _ ih => exact List.forall_mem_cons.mpr ⟨known.imp_left finish_mono, ih fine⟩
  | circle => cases fine
  | enter _ _ _ _ _ _ ih =>
    rw [finish_enter]
    obtain ⟨-, fine⟩ := (Bool.and_eq_true_iff ..).mp fine
    exact List.forall_mem_cons.mpr ⟨.inl (finish_mono List.mem_cons_self), ih fine⟩

/-- Every parent of a name that is done is taken care of as well. -/
theorem closed (h : Visits a path done names ended ok) :
    ∀ e ∈ ended, ∀ parent ∈ e.parents,
      parent ∈ finish ended done ∨ parent ∈ path ∨ a.get? parent = none := by
  induction h with
  | nil => nofun
  | pass _ _ ih => exact ih
  | circle _ _ _ ih => exact ih
  | @enter path done names parents name below ended acyclic ok _ _ _ inner _ below_ih ih =>
    rw [finish_enter]
    have outward {x : String}
        (h : x ∈ finish below done ∨ x ∈ name :: path ∨ a.get? x = none) :
        x ∈ finish ended (name :: finish below done) ∨ x ∈ path ∨ a.get? x = none := by
      rcases h with there | onPath | unknown
      · exact .inl (finish_mono (List.mem_cons_of_mem _ there))
      · rcases List.mem_cons.mp onPath with rfl | onPath
        · exact .inl (finish_mono List.mem_cons_self)
        · exact .inr (.inl onPath)
      · exact .inr (.inr unknown)
    refine List.forall_mem_append.mpr
      ⟨fun e member parent there => outward (below_ih e member _ there),
      List.forall_mem_cons.mpr ⟨fun parent there => outward (inner.covered _ there), ih⟩⟩

/-- The parents of whom met no circle are done, or have no parents. -/
theorem settled (h : Visits a path done names ended ok) :
    ∀ e ∈ ended, e.acyclic = true → ∀ parent ∈ e.parents,
      parent ∈ finish ended done ∨ a.get? parent = none := by
  induction h with
  | nil => nofun
  | pass _ _ ih => exact ih
  | circle _ _ _ ih => exact ih
  | enter _ _ _ inner _ below_ih ih =>
    rw [finish_enter]
    refine List.forall_mem_append.mpr ⟨fun e member fine parent there => ?_,
      List.forall_mem_cons.mpr ⟨fun fine parent there => ?_, ih⟩⟩
    · exact (below_ih e member fine parent there).imp_left fun done =>
        finish_mono (List.mem_cons_of_mem _ done)
    · exact (inner.covered_of_ok fine parent there).imp_left fun done =>
        finish_mono (List.mem_cons_of_mem _ done)

theorem ne_of_settled {x : String} (h : Visits a path done names ended ok)
    (settled : x ∈ done ∨ a.get? x = none) : ∀ e ∈ ended, e.name ≠ x := by
  rintro e member rfl
  rcases settled with there | unknown
  · exact (h.fresh e member).1 there
  · cases unknown.symm.trans (h.found e member)

theorem not_settled_below {name : String} {parents : List String}
    (h : Visits a (name :: path) done names ended ok) (fresh : name ∉ done)
    (found : a.get? name = some parents) : ¬ (name ∈ finish ended done ∨ a.get? name = none) := by
  rintro (there | unknown)
  · rcases mem_finish.mp there with ⟨e, member, same⟩ | there
    · exact (h.fresh e member).2 (same ▸ List.mem_cons_self)
    · exact fresh there
  · cases unknown.symm.trans found

theorem apart (h : Visits a path done names ended ok) :
    ∀ e ∈ ended, e.acyclic = true → e.name ∉ e.parents := by
  induction h with
  | nil => nofun
  | pass _ _ ih => exact ih
  | circle _ _ _ ih => exact ih
  | enter fresh found _ inner _ below_ih ih =>
    refine List.forall_mem_append.mpr ⟨below_ih, List.forall_mem_cons.mpr ⟨fun fine own => ?_, ih⟩⟩
    exact inner.not_settled_below fresh found (inner.covered_of_ok fine _ own)

/-- **Parents first.** No parent of whom met no circle ends later. -/
theorem ordered (h : Visits a path done names ended ok) :
    ended.Pairwise fun e later => e.acyclic = true → later.name ∉ e.parents := by
  induction h with
  | nil => exact .nil
  | pass _ _ ih => exact ih
  | circle _ _ _ ih => exact ih
  | enter fresh found _ inner outer below_ih ih =>
    refine List.pairwise_append.mpr
      ⟨below_ih, List.pairwise_cons.mpr ⟨fun later member fine parent => ?_, ih⟩,
        fun e member later behind fine parent => ?_⟩
    · have settled := inner.covered_of_ok fine _ parent
      exact outer.ne_of_settled (settled.imp_left (List.mem_cons_of_mem _)) later member rfl
    · have settled := inner.settled e member fine _ parent
      rcases List.mem_cons.mp behind with rfl | behind
      · exact inner.not_settled_below fresh found settled
      · exact outer.ne_of_settled (settled.imp_left (List.mem_cons_of_mem _)) later behind rfl

/-! ### Circles -/

theorem acyclic_of_ok (h : Visits a path done names ended ok) (fine : ok = true) :
    ∀ e ∈ ended, e.acyclic = true := by
  induction h with
  | nil => nofun
  | pass _ _ ih => exact ih fine
  | circle => cases fine
  | enter _ _ _ _ _ below_ih ih =>
    obtain ⟨below, fine⟩ := (Bool.and_eq_true_iff ..).mp fine
    exact List.forall_mem_append.mpr
      ⟨below_ih below, List.forall_mem_cons.mpr ⟨below, ih fine⟩⟩

/-- A name with which a circle was met: it is on the path, or its visit met one. -/
def Tainted (path : List String) (ended : List Ended) (name : String) : Prop :=
  name ∈ path ∨ ∃ e ∈ ended, e.name = name ∧ e.acyclic = false

theorem tainted_of_not_ok (h : Visits a path done names ended ok) (met : ok = false) :
    ∃ name ∈ names, Tainted path ended name := by
  induction h with
  | nil => cases met
  | pass _ _ ih =>
    obtain ⟨name, member, tainted⟩ := ih met
    exact ⟨name, List.mem_cons_of_mem _ member, tainted⟩
  | circle _ onPath => exact ⟨_, List.mem_cons_self, .inl onPath⟩
  | @enter path done names parents name below ended acyclic ok _ _ _ _ _ _ ih =>
    cases acyclic with
    | false =>
      have own : Ended.mk name parents false ∈ below ++ ⟨name, parents, false⟩ :: ended :=
        List.mem_append_right _ List.mem_cons_self
      exact ⟨name, List.mem_cons_self, .inr ⟨_, own, rfl, rfl⟩⟩
    | true =>
      obtain ⟨x, member, tainted⟩ := ih met
      refine ⟨x, List.mem_cons_of_mem _ member, tainted.imp_right ?_⟩
      rintro ⟨e, later, same, met⟩
      exact ⟨e, List.mem_append_right _ (List.mem_cons_of_mem _ later), same, met⟩

/-- **Blame.** Who met a circle has a parent that met one or is on the path. -/
theorem blamed (h : Visits a path done names ended ok) :
    ∀ e ∈ ended, e.acyclic = false → ∃ parent ∈ e.parents, Tainted path ended parent := by
  induction h with
  | nil => nofun
  | pass _ _ ih => exact ih
  | circle _ _ _ ih => exact ih
  | @enter path done names parents name below ended acyclic ok _ _ _ inner _ below_ih ih =>
    have outward {x : String} (tainted : Tainted (name :: path) below x) (met : acyclic = false) :
        Tainted path (below ++ ⟨name, parents, acyclic⟩ :: ended) x := by
      rcases tainted with onPath | ⟨e, member, same, met⟩
      · rcases List.mem_cons.mp onPath with rfl | onPath
        · exact .inr ⟨_, List.mem_append_right _ List.mem_cons_self, rfl, met⟩
        · exact .inl onPath
      · exact .inr ⟨e, List.mem_append_left _ member, same, met⟩
    refine List.forall_mem_append.mpr ⟨fun e member met => ?_,
      List.forall_mem_cons.mpr ⟨fun met => ?_, fun e member met => ?_⟩⟩
    · obtain ⟨parent, there, tainted⟩ := below_ih e member met
      refine ⟨parent, there, outward tainted (Bool.eq_false_iff.mpr fun fine => ?_)⟩
      exact Bool.eq_false_iff.mp met (inner.acyclic_of_ok fine e member)
    · obtain ⟨parent, there, tainted⟩ := inner.tainted_of_not_ok met
      exact ⟨parent, there, outward tainted met⟩
    · obtain ⟨parent, there, tainted⟩ := ih e member met
      refine ⟨parent, there, tainted.imp_right ?_⟩
      rintro ⟨e', later, same, met⟩
      exact ⟨e', List.mem_append_right _ (List.mem_cons_of_mem _ later), same, met⟩

end Visits

/-! ### The search -/

/-- The visits that have ended make the one visit from the other. -/
structure Visit.Adds (v v' : Visit) (ended : List Ended) : Prop where
  done : v'.done = finish ended v.done
  order : v'.order = v.order ++ (ended.filter (·.acyclic)).map Ended.entry

section Step

variable {path parents : List String} {name : String} {v : Visit}

theorem visit_done (there : name ∈ v.done) : a.visit path name v = (v, true) := by
  rw [visit, if_pos there]

theorem visit_unknown (fresh : name ∉ v.done) (unknown : a.get? name = none) :
    a.visit path name v = (v, true) := by
  rw [visit, if_neg fresh]
  split
  · rfl
  · next found => cases unknown.symm.trans found

theorem visit_circle (fresh : name ∉ v.done) (found : a.get? name = some parents)
    (onPath : name ∈ path) :
    a.visit path name v = ({ v with circular := v.circular ++ [name] }, false) := by
  rw [visit, if_neg fresh]
  split
  · next unknown => cases unknown.symm.trans found
  · rw [dif_pos onPath]

theorem visit_enter (fresh : name ∉ v.done) (found : a.get? name = some parents)
    (off : name ∉ path) :
    a.visit path name v =
      let (v', acyclic) := a.visitAll (name :: path) parents v
      ({ v' with
          done := name :: v'.done
          order := if acyclic then v'.order ++ [(name, parents)] else v'.order }, acyclic) := by
  rw [visit, if_neg fresh]
  split
  · next unknown => cases unknown.symm.trans found
  · next parents' found' =>
    obtain rfl : parents' = parents := Option.some.inj (found'.symm.trans found)
    rw [dif_neg off]

end Step

theorem visits_visitAll (path names : List String) (v : Visit) :
    ∃ ended, Visits a path v.done names ended (a.visitAll path names v).2 ∧
      v.Adds (a.visitAll path names v).1 ended := by
  refine (Ancestry.visit.mutual_induct a
    (fun path name v => ∃ ended, Visits a path v.done [name] ended (a.visit path name v).2 ∧
      v.Adds (a.visit path name v).1 ended)
    (fun path names v => ∃ ended, Visits a path v.done names ended (a.visitAll path names v).2 ∧
      v.Adds (a.visitAll path names v).1 ended) ?_ ?_ ?_ ?_ ?_ ?_).2 path names v
  · intro path name v there
    rw [visit_done there]
    exact ⟨[], .pass (.inl there) .nil, rfl, (List.append_nil _).symm⟩
  · intro path name v fresh unknown
    rw [visit_unknown fresh unknown]
    exact ⟨[], .pass (.inr unknown) .nil, rfl, (List.append_nil _).symm⟩
  · intro path name v fresh parents found onPath
    rw [visit_circle fresh found onPath]
    exact ⟨[], .circle fresh onPath .nil, rfl, (List.append_nil _).symm⟩
  · intro path name v fresh parents found off v' acyclic visited ih
    rw [visited] at ih
    obtain ⟨below, visits, done, order⟩ := ih
    change v'.order = v.order ++ _ at order
    have entered := Visits.enter fresh found off visits .nil
    rw [Bool.and_true] at entered
    rw [visit_enter fresh found off, visited]
    refine ⟨below ++ [⟨name, parents, acyclic⟩], entered, ?_, ?_⟩
    · rw [finish_enter, ← done]
      rfl
    · cases acyclic <;> simp [order, Ended.entry]
  · intro path v
    rw [visitAll]
    exact ⟨[], .nil, rfl, (List.append_nil _).symm⟩
  · intro path v name rest v₁ ok first v₂ others all visited visitedAll
    rw [first] at visited
    rw [all] at visitedAll
    obtain ⟨ended, visits, done, order⟩ := visited
    obtain ⟨ended', visits', done', order'⟩ := visitedAll
    rw [done] at visits' done'
    simp only [visitAll, first, all]
    refine ⟨ended ++ ended', visits.append visits', ?_, ?_⟩
    · rw [finish_append, done']
    · rw [order', order, List.append_assoc, List.filter_append, List.map_append]

/-- **The order is what the visits say.** -/
theorem visits_visited (a : Ancestry) :
    ∃ ended ok, Visits a [] [] a.keys ended ok ∧
      a.visited.order = (ended.filter (·.acyclic)).map Ended.entry := by
  obtain ⟨ended, visits, -, order⟩ := visits_visitAll (a := a) [] a.keys {}
  exact ⟨ended, _, visits, order⟩

end RefDoc.Ancestry
