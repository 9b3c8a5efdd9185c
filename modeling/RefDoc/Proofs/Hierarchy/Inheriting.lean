import RefDoc.Proofs.Hierarchy.Steps
import RefDoc.Proofs.Hierarchy.Visits

/-!
# What is inherited

A child is looked at when all its parents have what they will ever have: no name that comes later in
the order is a parent of it (`Collection.pairwise_inheritanceOrder`). So it gets every member that a
parent has in the end, and where it gets a copy, that is of the first parent with such a member
(`Collection.inheritance_complete`).
-/

namespace RefDoc

theorem CopyRule.member_copy {rule : CopyRule} (known : rule.Known) (target : String) (m : Doclet) :
    (rule.copy target m).memberOf = some target ∧ (rule.copy target m).name = m.name ∧
      (rule.copy target m).scope = some (rule.scope m) := by
  cases known with
  | mixing mixing => exact ⟨rfl, rfl, rfl⟩
  | inheritance => exact ⟨rfl, rfl, rfl⟩

namespace Collection

variable {c c' : Collection} {child parent target name : String} {parents : List String}
  {scope : Option Scope} {d m : Doclet}

theorem hasMember_iff :
    c.hasMember parent name scope = true ↔
      ∃ d ∈ c.doclets, d.memberOf = some parent ∧ d.name = name ∧ d.scope = scope := by
  simp [hasMember, membersOf]

theorem mem_sharedMembers :
    m ∈ c.sharedMembers parent ↔
      m ∈ c.doclets ∧ m.memberOf = some parent ∧ m.scope ≠ some .inner := by
  simp [sharedMembers, membersOf, and_comm]

theorem hasMember_mono (sub : c.doclets ⊆ c'.doclets)
    (owned : c.hasMember parent name scope = true) : c'.hasMember parent name scope = true := by
  obtain ⟨d, member, fits⟩ := hasMember_iff.mp owned
  exact hasMember_iff.mpr ⟨d, sub member, fits⟩

theorem missing_mono (sub : c.doclets ⊆ c'.doclets)
    (missing : c'.hasMember parent name scope = false) :
    c.hasMember parent name scope = false :=
  Bool.eq_false_iff.mpr fun owned => Bool.eq_false_iff.mp missing (hasMember_mono sub owned)

theorem sharedMembers_append {added : List Doclet} (all : c'.doclets = c.doclets ++ added)
    (elsewhere : ∀ d ∈ added, d.memberOf ≠ some parent) :
    c'.sharedMembers parent = c.sharedMembers parent := by
  have none : added.filter (·.memberOf == some parent) = [] :=
    List.filter_eq_nil_iff.mpr fun d member same => elsewhere d member (beq_iff_eq.mp same)
  rw [sharedMembers, sharedMembers, membersOf, membersOf, all, List.filter_append, none,
    List.append_nil]

/-! ### Copying -/

/-- The members are copied to the target as far as it lacks them, and it has all of them then. -/
structure Copies (rule : CopyRule) (target : String) (ms : List Doclet) (c c' : Collection) :
    Prop where
  appends : ∃ added, c'.doclets = c.doclets ++ added ∧ ∀ d ∈ added, ∃ m ∈ ms,
    d = rule.copy target m ∧ c.hasMember target m.name (some (rule.scope m)) = false
  owned : ∀ m ∈ ms, c'.hasMember target m.name (some (rule.scope m)) = true

theorem copies_foldl_addCopy {rule : CopyRule} (known : rule.Known) (target : String)
    (ms : List Doclet) (c : Collection) : Copies rule target ms c (ms.foldl (addCopy rule target) c)
    := by
  induction ms generalizing c with
  | nil => exact ⟨⟨[], (List.append_nil _).symm, fun _ h => nomatch h⟩, fun _ h => nomatch h⟩
  | cons m rest ih =>
    rw [List.foldl_cons]
    cases there : c.hasMember target m.name (some (rule.scope m)) with
    | true =>
      rw [addCopy, if_pos there]
      obtain ⟨⟨added, all, copied⟩, owned⟩ := ih c
      refine ⟨⟨added, all, fun d member => ?_⟩, List.forall_mem_cons.mpr ⟨?_, owned⟩⟩
      · obtain ⟨m', later, copy⟩ := copied d member
        exact ⟨m', List.mem_cons_of_mem _ later, copy⟩
      · exact hasMember_mono (all ▸ List.subset_append_left ..) there
    | false =>
      rw [addCopy, if_neg (Bool.eq_false_iff.mp there)]
      obtain ⟨⟨added, all, copied⟩, owned⟩ := ih (c.push (rule.copy target m))
      rw [doclets_push, List.append_assoc, List.singleton_append] at all
      refine ⟨⟨rule.copy target m :: added, all, List.forall_mem_cons.mpr ⟨?_, fun d member => ?_⟩⟩,
        List.forall_mem_cons.mpr ⟨?_, owned⟩⟩
      · exact ⟨m, List.mem_cons_self, rfl, there⟩
      · obtain ⟨m', later, copy, missing⟩ := copied d member
        exact ⟨m', List.mem_cons_of_mem _ later, copy,
          missing_mono (List.subset_append_left ..) missing⟩
      · refine hasMember_iff.mpr ⟨rule.copy target m, ?_, CopyRule.member_copy known target m⟩
        rw [all]
        exact List.mem_append_right _ List.mem_cons_self

theorem copies_inherit (c : Collection) (d : Descent) :
    Copies inheritance d.1 (c.sharedMembers d.2) c (c.inherit d) :=
  copies_foldl_addCopy .inheritance d.1 (c.sharedMembers d.2) c

/-! ### One child -/

/-- `m` is a member of the parent that children inherit under the name and scope; a member without a
scope counts as one of the instances. -/
structure Offers (c : Collection) (parent name : String) (scope : Option Scope) (m : Doclet) :
    Prop where
  member : m ∈ c.doclets ∧ m.memberOf = some parent
  shared : m.scope ≠ some .inner
  name : m.name = name
  scope : some (m.scope.getD .onInstance) = scope

theorem offers_iff : c.Offers parent name scope m ↔
    m ∈ c.sharedMembers parent ∧ m.name = name ∧ some (inheritance.scope m) = scope := by
  rw [mem_sharedMembers]
  constructor
  · rintro ⟨⟨there, own⟩, shared, name, scope⟩
    exact ⟨⟨there, own, shared⟩, name, scope⟩
  · rintro ⟨⟨there, own, shared⟩, name, scope⟩
    exact ⟨⟨there, own⟩, shared, name, scope⟩

/-- The doclet is what the child inherits from the first of its parents to offer such a member. -/
def HandedDown (c : Collection) (child : String) (parents : List String) (d : Doclet) : Prop :=
  ∃ before parent after, parents = before ++ parent :: after ∧
    (∃ m, c.Offers parent d.name d.scope m ∧ d = inheritance.copy child m) ∧
    ∀ earlier ∈ before, ∀ m, ¬ c.Offers earlier d.name d.scope m

theorem HandedDown.memberOf (h : c.HandedDown child parents d) : d.memberOf = some child := by
  obtain ⟨_, _, _, -, ⟨m, -, rfl⟩, -⟩ := h
  rfl

/-- It depends on no more than what the parents share. -/
theorem HandedDown.congr
    (same : ∀ parent ∈ parents, c'.sharedMembers parent = c.sharedMembers parent)
    (h : c.HandedDown child parents d) : c'.HandedDown child parents d := by
  have offers (parent : String) (there : parent ∈ parents) (m : Doclet) :
      c'.Offers parent d.name d.scope m ↔ c.Offers parent d.name d.scope m := by
    rw [offers_iff, offers_iff, same parent there]
  obtain ⟨before, parent, after, split, ⟨m, offered, copy⟩, first⟩ := h
  have there : parent ∈ parents := split ▸ List.mem_append_right _ List.mem_cons_self
  refine ⟨before, parent, after, split, ⟨m, (offers parent there m).mpr offered, copy⟩, ?_⟩
  intro earlier member m' offered
  refine first earlier member m' ((offers earlier ?_ m').mp offered)
  exact split ▸ List.mem_append_left _ member

/-- The child inherits what its parents share. -/
structure Inherits (child : String) (parents : List String) (c c' : Collection) : Prop where
  appends : ∃ added, c'.doclets = c.doclets ++ added ∧ ∀ d ∈ added,
    c.HandedDown child parents d ∧ c.hasMember child d.name d.scope = false
  owned : ∀ parent ∈ parents, ∀ m ∈ c.sharedMembers parent,
    c'.hasMember child m.name (some (inheritance.scope m)) = true

def inheritFrom (c : Collection) (e : String × List String) : Collection :=
  e.2.foldl (fun c parent => c.inherit (e.1, parent)) c

theorem inherits_inheritFrom (apart : child ∉ parents) (c : Collection) :
    Inherits child parents c (c.inheritFrom (child, parents)) := by
  induction parents generalizing c with
  | nil => exact ⟨⟨[], (List.append_nil _).symm, fun _ h => nomatch h⟩, fun _ h => nomatch h⟩
  | cons parent rest ih =>
    obtain ⟨apart_parent, apart⟩ := List.ne_and_not_mem_of_not_mem_cons apart
    obtain ⟨⟨first, all, copied⟩, owned⟩ := copies_inherit c (child, parent)
    obtain ⟨⟨others, all', handed⟩, owned'⟩ := ih apart (c.inherit (child, parent))
    show Inherits child (parent :: rest) c ((c.inherit (child, parent)).inheritFrom (child, rest))
    have same (other : String) (differs : child ≠ other) :
        (c.inherit (child, parent)).sharedMembers other = c.sharedMembers other := by
      refine sharedMembers_append all fun d member own => ?_
      obtain ⟨m, -, rfl, -⟩ := copied d member
      exact differs (Option.some.inj own)
    have rest_same : ∀ other ∈ rest,
        c.sharedMembers other = (c.inherit (child, parent)).sharedMembers other :=
      fun other member => (same other fun here => apart (here ▸ member)).symm
    refine ⟨⟨first ++ others, by rw [all', all, List.append_assoc],
      List.forall_mem_append.mpr ⟨fun d member => ?_, fun d member => ?_⟩⟩,
      List.forall_mem_cons.mpr ⟨fun m shared => ?_, fun other member m shared => ?_⟩⟩
    · obtain ⟨m, shared, rfl, missing⟩ := copied d member
      exact ⟨⟨[], parent, rest, rfl, ⟨m, offers_iff.mpr ⟨shared, rfl, rfl⟩, rfl⟩, nofun⟩, missing⟩
    · obtain ⟨later, missing⟩ := handed d member
      obtain ⟨before, from_, after, split, copy, unoffered⟩ := later.congr rest_same
      refine ⟨⟨parent :: before, from_, after, congrArg (parent :: ·) split, copy,
        List.forall_mem_cons.mpr ⟨fun m offered => ?_, unoffered⟩⟩,
        missing_mono (all ▸ List.subset_append_left ..) missing⟩
      obtain ⟨shared, name, scope⟩ := offers_iff.mp offered
      have own := owned m shared
      rw [name, scope, missing] at own
      cases own
    · exact hasMember_mono (all' ▸ List.subset_append_left ..) (owned m shared)
    · exact owned' other member m (rest_same other member ▸ shared)

/-! ### All children -/

/-- Every child gets what its parents share, as long as nobody is handed anything after a child. -/
theorem inherits_foldl {order : List (String × List String)}
    (ordered : order.Pairwise fun e later => later.1 ∉ e.2) (apart : ∀ e ∈ order, e.1 ∉ e.2)
    (c : Collection) :
    (∃ added, (order.foldl inheritFrom c).doclets = c.doclets ++ added ∧
      ∀ d ∈ added, ∃ e ∈ order, (order.foldl inheritFrom c).HandedDown e.1 e.2 d) ∧
    ∀ e ∈ order, ∀ parent ∈ e.2, ∀ m ∈ (order.foldl inheritFrom c).sharedMembers parent,
      (order.foldl inheritFrom c).hasMember e.1 m.name (some (inheritance.scope m)) = true := by
  induction order generalizing c with
  | nil => exact ⟨⟨[], (List.append_nil _).symm, fun _ h => nomatch h⟩, fun _ h => nomatch h⟩
  | cons e rest ih =>
    obtain ⟨after, ordered⟩ := List.pairwise_cons.mp ordered
    obtain ⟨apart_e, apart⟩ := List.forall_mem_cons.mp apart
    obtain ⟨⟨first, all, handed⟩, owned⟩ := inherits_inheritFrom apart_e c
    obtain ⟨⟨others, all', handed'⟩, owned'⟩ := ih ordered apart (c.inheritFrom e)
    rw [List.foldl_cons]
    generalize rest.foldl inheritFrom (c.inheritFrom e) = final at all' handed' owned'
    have same : ∀ parent ∈ e.2, final.sharedMembers parent = c.sharedMembers parent := by
      intro parent member
      rw [sharedMembers_append all' fun d there own => ?_,
        sharedMembers_append all fun d there own => ?_]
      · rw [(handed d there).1.memberOf] at own
        exact apart_e (Option.some.inj own ▸ member)
      · obtain ⟨e', later, down⟩ := handed' d there
        rw [down.memberOf] at own
        exact after e' later (Option.some.inj own ▸ member)
    refine ⟨⟨first ++ others, by rw [all', all, List.append_assoc],
      List.forall_mem_append.mpr ⟨fun d member => ?_, fun d member => ?_⟩⟩,
      List.forall_mem_cons.mpr ⟨fun parent member m shared => ?_, owned'⟩⟩
    · exact ⟨e, List.mem_cons_self, (handed d member).1.congr same⟩
    · obtain ⟨e', later, down⟩ := handed' d member
      exact ⟨e', List.mem_cons_of_mem _ later, down⟩
    · rw [same parent member] at shared
      exact hasMember_mono (all' ▸ List.subset_append_left ..) (owned parent member m shared)

theorem addInherited_eq (c : Collection) :
    c.addInherited.1 = c.inheritanceOrder.foldl inheritFrom c := by
  show (foldLogged inherit _ c c.descents).1 = _
  rw [foldLogged_fst, descents, List.foldl_flatMap]
  simp only [List.foldl_map]
  rfl

/-- Nobody is its own parent in the order, and no parent comes later. -/
theorem pairwise_inheritanceOrder (c : Collection) :
    (c.inheritanceOrder.Pairwise fun e later => later.1 ∉ e.2) ∧
      ∀ e ∈ c.inheritanceOrder, e.1 ∉ e.2 := by
  obtain ⟨ended, ok, visits, order⟩ := Ancestry.visits_visited c.ancestry
  rw [inheritanceOrder, order]
  refine ⟨?_, fun e member => ?_⟩
  · rw [List.pairwise_map, List.pairwise_filter]
    exact visits.ordered.imp fun before fine _ => before fine
  · obtain ⟨e, kept, rfl⟩ := List.mem_map.mp member
    obtain ⟨there, fine⟩ := List.mem_filter.mp kept
    exact visits.apart e there fine

/-- By the order, the parent is one of the child's. -/
def Descends (c : Collection) (child parent : String) : Prop :=
  ∃ parents, (child, parents) ∈ c.inheritanceOrder ∧ parent ∈ parents

/-- **Inheritance is complete and well attributed.** Whoever is in the order gets all that a parent
has in the end and shares, and so all that an ancestor has. What is added is a member of somebody in
the order, marked as inherited and with the longname of the member it was copied from; that one
belongs to the first of the declared parents that offers a member of that name and scope. -/
theorem inheritance_complete (c : Collection) :
    let mixed := c.addMixedIn.1
    let inherited := mixed.addInherited.1
    (∀ child ancestor, Relation.TransGen mixed.Descends child ancestor →
      ∀ m ∈ inherited.doclets, m.memberOf = some ancestor → m.scope ≠ some .inner →
        ∃ d ∈ inherited.doclets, d.memberOf = some child ∧ d.name = m.name ∧
          d.scope = some (m.scope.getD .onInstance)) ∧
    ∃ added, inherited.doclets = mixed.doclets ++ added ∧
      ∀ d ∈ added, d.inherited = true ∧ d.mixed = false ∧
        ∃ child parents, (child, parents) ∈ mixed.inheritanceOrder ∧ d.memberOf = some child ∧
          ∃ before parent after, parents = before ++ parent :: after ∧
            (∃ m, inherited.Offers parent d.name d.scope m ∧ d.inherits = some m.longname) ∧
            ∀ earlier ∈ before, ∀ m, ¬ inherited.Offers earlier d.name d.scope m := by
  intro mixed inherited
  obtain ⟨ordered, apart⟩ := pairwise_inheritanceOrder mixed
  obtain ⟨⟨added, all, handed⟩, owned⟩ := inherits_foldl ordered apart mixed
  rw [← addInherited_eq] at all handed owned
  have step {child parent : String} (descends : mixed.Descends child parent) {m : Doclet}
      (there : m ∈ inherited.doclets) (own : m.memberOf = some parent)
      (shared : m.scope ≠ some .inner) :
      ∃ d ∈ inherited.doclets, d.memberOf = some child ∧ d.name = m.name ∧
        d.scope = some (m.scope.getD .onInstance) := by
    obtain ⟨parents, entry, member⟩ := descends
    exact hasMember_iff.mp
      (owned _ entry parent member m (mem_sharedMembers.mpr ⟨there, own, shared⟩))
  refine ⟨fun child ancestor line => ?_, added, all, fun d member => ?_⟩
  · induction line using Relation.TransGen.head_induction_on with
    | single descends => exact fun m there own shared => step descends there own shared
    | head descends _ ih =>
      intro m there own shared
      obtain ⟨d, found, own', name, scope⟩ := ih m there own shared
      have shared' : d.scope ≠ some .inner := by
        rw [scope]
        intro inner
        cases h : m.scope with
        | none =>
          rw [h] at inner
          cases inner
        | some s =>
          rw [h] at inner shared
          exact shared inner
      obtain ⟨d', found', own'', name', scope'⟩ := step descends found own' shared'
      refine ⟨d', found', own'', name'.trans name, ?_⟩
      rw [scope', scope]
      rfl
  · obtain ⟨e, entry, down⟩ := handed d member
    have own := down.memberOf
    obtain ⟨before, parent, after, split, ⟨m, offered, copy⟩, first⟩ := down
    have marks : d.inherited = true ∧ d.mixed = false ∧ d.inherits = some m.longname := by
      rw [copy]
      exact ⟨rfl, rfl, rfl⟩
    exact ⟨marks.1, marks.2.1, e.1, e.2, entry, own, before, parent, after, split,
      ⟨m, offered, marks.2.2⟩, first⟩

/-- A square is a rectangle and that is a shape, which has an area. -/
def shapes : Collection :=
  ofList [{ Doclet.named "Square" .classType with augments := ["Rect"] },
    { Doclet.named "Rect" .classType with augments := ["Shape"] }, Doclet.named "Shape" .classType,
    (Doclet.named "area" .function).setMemberOf "Shape" .onInstance]

theorem inheritance_complete_shapes :
    let mixed := shapes.addMixedIn.1
    let inherited := mixed.addInherited.1
    mixed.inheritanceOrder = [("Rect", ["Shape"]), ("Square", ["Rect"])] ∧
      Relation.TransGen mixed.Descends "Square" "Shape" ∧
      ∃ d ∈ inherited.doclets, d.memberOf = some "Square" ∧ d.name = "area" ∧
        d.scope = some .onInstance := by
  intro mixed inherited
  have square : mixed.ancestry.get? "Square" = some ["Rect"] := rfl
  have rect : mixed.ancestry.get? "Rect" = some ["Shape"] := rfl
  have shape : mixed.ancestry.get? "Shape" = none := rfl
  have keys : mixed.ancestry.keys = ["Rect", "Square"] := rfl
  have order : mixed.inheritanceOrder = [("Rect", ["Shape"]), ("Square", ["Rect"])] := by
    simp [inheritanceOrder, Ancestry.visited, keys, Ancestry.visitAll, Ancestry.visit_done,
      Ancestry.visit_unknown, Ancestry.visit_enter, square, rect, shape]
  have first : mixed.Descends "Square" "Rect" := ⟨["Rect"], by simp [order], List.mem_cons_self⟩
  have second : mixed.Descends "Rect" "Shape" := ⟨["Shape"], by simp [order], List.mem_cons_self⟩
  have line : Relation.TransGen mixed.Descends "Square" "Shape" := .head first (.single second)
  let area : Doclet := (Doclet.named "area" .function).setMemberOf "Shape" .onInstance
  have there : area ∈ inherited.doclets := by
    obtain ⟨-, added, all, -⟩ := inheritance_complete shapes
    rw [all]
    have own : area ∈ mixed.doclets := by decide
    exact List.mem_append_left _ own
  exact ⟨order, line,
    (inheritance_complete shapes).1 "Square" "Shape" line area there rfl (by decide)⟩

end Collection

end RefDoc
