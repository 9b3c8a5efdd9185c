import RefDoc.Proofs.Hierarchy.Order
import RefDoc.Proofs.Hierarchy.Slots

/-!
# Inheritance and the order of reading

Which doclet was made first depends on the order in which the sources were read. Who inherits what
does not (`Collection.addInherited_perm`). If longnames are distinct, the order of inheritance goes
by them alone (`Collection.ancestry_perm`). And as long as no two members have the same slot, no two
members of a parent want the same slot of a child. Then it does not matter which is copied first:
copies are made of just those that are lacking at first (`Collection.doclets_foldl_addCopy`).
-/

namespace RefDoc.Collection

variable {c c' : Collection} {name : String} {parents : List String}

/-- Longnames are distinct, and that of a member says whose it is and how. -/
structure WellNamed (c : Collection) : Prop where
  distinct : (c.doclets.map (·.longname)).Nodup
  members : ∀ d ∈ c.doclets, ∀ parent, d.memberOf = some parent →
    ∃ scope, d.scope = some scope ∧ d.longname = parent ++ scope.separator ++ d.name

theorem WellNamed.scoped (named : c.WellNamed) : c.Scoped := by
  intro d there member
  obtain ⟨parent, own⟩ := Option.ne_none_iff_exists'.mp member
  obtain ⟨scope, has, -⟩ := named.members d there parent own
  rw [has]
  exact Option.some_ne_none scope

theorem WellNamed.membersApart (named : c.WellNamed) : c.MembersApart := by
  have distinct := List.pairwise_map.mp named.distinct
  refine distinct.imp_of_mem fun {d e} here there differ member same => ?_
  obtain ⟨parent, own⟩ := Option.ne_none_iff_exists'.mp member
  obtain ⟨owners, names, scopes⟩ := (Slot.mk.injEq ..).mp same
  obtain ⟨scope, has, longname⟩ := named.members d here parent own
  obtain ⟨scope', has', longname'⟩ := named.members e there parent (owners ▸ own)
  obtain rfl : scope = scope' := Option.some.inj (has.symm.trans (scopes.trans has'))
  exact differ (longname.trans (names ▸ longname'.symm))

theorem MembersApart.perm (apart : c.MembersApart) (same : c.doclets.Perm c'.doclets) :
    c'.MembersApart := by
  refine (same.pairwise_iff fun {d e} differ member shared => ?_).mp apart
  have owners : e.memberOf = d.memberOf := congrArg Slot.memberOf shared
  exact differ (owners ▸ member) shared.symm

theorem Scoped.perm (inScope : c.Scoped) (same : c.doclets.Perm c'.doclets) : c'.Scoped :=
  fun d there => inScope d (same.mem_iff.mpr there)

/-! ### The hierarchy -/

/-- With distinct longnames there is but one doclet to ask for the parents. -/
theorem parents?_eq_some_iff (distinct : (c.doclets.map (·.longname)).Nodup) :
    c.parents? name = some parents ↔
      parents ≠ [] ∧ ∃ d ∈ c.doclets, d.longname = name ∧ d.augments = parents := by
  rw [parents?, Option.map_eq_some_iff]
  constructor
  · rintro ⟨d, found, rfl⟩
    have fits := List.find?_some found
    have there := List.mem_reverse.mp (List.mem_of_find?_eq_some found)
    rw [Bool.and_eq_true, beq_iff_eq] at fits
    exact ⟨by simpa using fits.2, d, there, fits.1, rfl⟩
  · rintro ⟨some_, d, there, rfl, rfl⟩
    have fits : (d.longname == d.longname && !d.augments.isEmpty) = true := by simpa using some_
    cases found :
      c.doclets.reverse.find? fun e => e.longname == d.longname && !e.augments.isEmpty with
    | none => exact absurd fits (List.find?_eq_none.mp found d (List.mem_reverse.mpr there))
    | some e =>
      have named := List.find?_some found
      have here := List.mem_reverse.mp (List.mem_of_find?_eq_some found)
      rw [Bool.and_eq_true, beq_iff_eq] at named
      obtain rfl := List.inj_on_of_nodup_map distinct here there named.1
      exact ⟨e, rfl, rfl⟩

theorem ancestry_perm (distinct : (c.doclets.map (·.longname)).Nodup)
    (same : c.doclets.Perm c'.doclets) : c.ancestry = c'.ancestry := by
  have distinct' := (same.map (·.longname)).nodup_iff.mp distinct
  refine Table.eq_of_get? fun name => Option.ext fun parents => ?_
  rw [get?_ancestry, get?_ancestry, parents?_eq_some_iff distinct, parents?_eq_some_iff distinct']
  simp only [same.mem_iff]

/-! ### Copying -/

theorem hasMember_perm (same : c.doclets.Perm c'.doclets) (parent name : String)
    (scope : Option Scope) : c.hasMember parent name scope = c'.hasMember parent name scope := by
  rw [Bool.eq_iff_iff, hasMember_iff, hasMember_iff]
  simp only [same.mem_iff]

theorem sharedMembers_perm (same : c.doclets.Perm c'.doclets) (parent : String) :
    (c.sharedMembers parent).Perm (c'.sharedMembers parent) :=
  (same.filter _).filter _

/-- The slot that a copy would take is free. -/
def lacks (rule : CopyRule) (target : String) (c : Collection) (m : Doclet) : Bool :=
  !c.hasMember target m.name (some (rule.scope m))

/-- If no two members want the same slot, a copy is made of each that is lacking at first. -/
theorem doclets_foldl_addCopy {rule : CopyRule} (known : rule.Known) (target : String)
    {ms : List Doclet}
    (apart : ms.Pairwise fun m m' => (m.name, rule.scope m) ≠ (m'.name, rule.scope m'))
    (c : Collection) :
    (ms.foldl (addCopy rule target) c).doclets =
      c.doclets ++ (ms.filter (lacks rule target c)).map (rule.copy target) := by
  induction ms generalizing c with
  | nil => exact (List.append_nil _).symm
  | cons m rest ih =>
    obtain ⟨first, apart⟩ := List.pairwise_cons.mp apart
    rw [List.foldl_cons, addCopy]
    cases there : c.hasMember target m.name (some (rule.scope m)) with
    | true => rw [if_pos rfl, ih apart, List.filter_cons_of_neg (by simp [lacks, there])]
    | false =>
      have same : rest.filter (lacks rule target (c.push (rule.copy target m))) =
          rest.filter (lacks rule target c) := by
        refine List.filter_congr fun m' later => ?_
        rw [lacks, lacks, Bool.not_inj_iff, Bool.eq_iff_iff, hasMember_iff_slots,
          hasMember_iff_slots, slots_push, CopyRule.slot_copy known, List.mem_append,
          List.mem_singleton, or_iff_left]
        intro clash
        obtain ⟨-, names, scopes⟩ := (Slot.mk.injEq ..).mp clash
        exact first m' later (Prod.ext names.symm (Option.some.inj scopes).symm)
      rw [if_neg Bool.false_ne_true, ih apart, List.filter_cons_of_pos (by simp [lacks, there]),
        same, doclets_push, List.append_assoc, List.map_cons, List.singleton_append]

theorem pairwise_sharedMembers (apart : c.MembersApart) (inScope : c.Scoped) (parent : String) :
    (c.sharedMembers parent).Pairwise fun m m' =>
      (m.name, inheritance.scope m) ≠ (m'.name, inheritance.scope m') := by
  have sub : (c.sharedMembers parent).Sublist c.doclets :=
    List.filter_sublist.trans List.filter_sublist
  refine (apart.sublist sub).imp_of_mem fun {m m'} here there differ same => ?_
  obtain ⟨member, own, -⟩ := mem_sharedMembers.mp here
  obtain ⟨member', own', -⟩ := mem_sharedMembers.mp there
  obtain ⟨scope, has⟩ := Option.ne_none_iff_exists'.mp (inScope m member (by simp [own]))
  obtain ⟨scope', has'⟩ := Option.ne_none_iff_exists'.mp (inScope m' member' (by simp [own']))
  simp only [inheritance, has, has', Option.getD_some, Prod.mk.injEq] at same
  refine differ (by simp [own]) ?_
  rw [Doclet.slot, Doclet.slot, own, own', has, has', same.1, same.2]

theorem doclets_inherit (apart : c.MembersApart) (inScope : c.Scoped) (d : Descent) :
    (c.inherit d).doclets = c.doclets ++
      ((c.sharedMembers d.2).filter (lacks inheritance d.1 c)).map (inheritance.copy d.1) :=
  doclets_foldl_addCopy .inheritance d.1 (pairwise_sharedMembers apart inScope d.2) c

theorem inherit_perm (apart : c.MembersApart) (inScope : c.Scoped)
    (same : c.doclets.Perm c'.doclets) (d : Descent) :
    (c.inherit d).doclets.Perm (c'.inherit d).doclets := by
  have wanting : lacks inheritance d.1 c = lacks inheritance d.1 c' := by
    funext m
    rw [lacks, lacks, hasMember_perm same]
  rw [doclets_inherit apart inScope, doclets_inherit (apart.perm same) (inScope.perm same), wanting]
  exact same.append (((sharedMembers_perm same d.2).filter _).map _)

theorem foldl_inherit_perm (apart : c.MembersApart) (inScope : c.Scoped)
    (same : c.doclets.Perm c'.doclets) (l : List Descent) :
    (l.foldl inherit c).doclets.Perm (l.foldl inherit c').doclets := by
  induction l generalizing c c' with
  | nil => exact same
  | cons d rest ih =>
    have steps := inherit_steps c d
    exact ih (steps.membersApart apart) (steps.scoped inScope) (inherit_perm apart inScope same d)

/-- **Inheritance does not depend on the order of reading.** If longnames are distinct and those of
members say whose they are and how, then the same doclets in any other order come to the same
doclets, up to their order, with all that is inherited; circles make no difference. -/
theorem addInherited_perm (named : c.WellNamed) (same : c.doclets.Perm c'.doclets) :
    c.addInherited.1.doclets.Perm c'.addInherited.1.doclets := by
  have descents : c.descents = c'.descents := by
    unfold descents inheritanceOrder
    rw [ancestry_perm named.distinct same]
  show (foldLogged inherit _ c c.descents).1.doclets.Perm (foldLogged inherit _ c' _).1.doclets
  rw [foldLogged_fst, foldLogged_fst, ← descents]
  exact foldl_inherit_perm named.membersApart named.scoped same c.descents

/-- A class that augments itself and another, which has a member. -/
def looped : Collection :=
  ofList [{ Doclet.named "a" .classType with augments := ["a", "b"] }, Doclet.named "b" .classType,
    (Doclet.named "x" .function).setMemberOf "b" .onInstance,
    { Doclet.named "c" .classType with augments := ["b"] }]

theorem wellNamed_looped : looped.WellNamed where
  distinct := by decide
  members := by decide

theorem addInherited_perm_looped :
    looped.WellNamed ∧
      looped.addInherited.1.doclets.Perm
        (ofList looped.doclets.reverse).addInherited.1.doclets := by
  have reversed : looped.doclets.Perm (ofList looped.doclets.reverse).doclets := by
    rw [doclets_ofList]
    exact (List.reverse_perm _).symm
  exact ⟨wellNamed_looped, addInherited_perm wellNamed_looped reversed⟩

end RefDoc.Collection
