import RefDoc.Proofs.Table
import RefDoc.Tutorial.Nesting

/-!
# Who lists a tutorial

After the settings are applied a tutorial lists those that it listed before and those that the
settings declare (`Tutorials.lists_applyAll`). Of the tutorials that list another the first by name
is found to be its parent (`Tutorials.get?_parents_eq_some_iff`).
-/

namespace RefDoc

/-- The settings, applied to tutorials that go by the known names, declare that `parent` is to have
`child`. Settings of a tutorial that is not there are left aside, with all that is in them. -/
inductive TutorialSettings.Declares (known : String → Prop) :
    List (String × TutorialSettings) → String → String → Prop
  | named {l : List (String × TutorialSettings)} {parent child : String} {s : TutorialSettings} :
      (parent, s) ∈ l → known parent → child ∈ s.named → Declares known l parent child
  | nested {l : List (String × TutorialSettings)} {parent child : String}
      {s s' : TutorialSettings} :
      (parent, s) ∈ l → known parent → (child, s') ∈ s.nested → Declares known l parent child
  | within {l : List (String × TutorialSettings)} {name parent child : String}
      {s : TutorialSettings} :
      (name, s) ∈ l → known name → Declares known s.nested parent child →
        Declares known l parent child

namespace TutorialSettings

variable {known : String → Prop} {name parent child : String} {s : TutorialSettings}
  {l : List (String × TutorialSettings)}

theorem declares_nil : ¬ Declares known [] parent child := by
  rintro (⟨member, -⟩ | ⟨member, -⟩ | ⟨member, -⟩) <;> cases member

theorem declares_cons :
    Declares known ((name, s) :: l) parent child ↔
      Declares known [(name, s)] parent child ∨ Declares known l parent child := by
  constructor
  · rintro (⟨member, there, named⟩ | ⟨member, there, nested⟩ | ⟨member, there, within⟩) <;>
      rcases List.mem_cons.mp member with same | member
    · exact .inl (.named (List.mem_singleton.mpr same) there named)
    · exact .inr (.named member there named)
    · exact .inl (.nested (List.mem_singleton.mpr same) there nested)
    · exact .inr (.nested member there nested)
    · exact .inl (.within (List.mem_singleton.mpr same) there within)
    · exact .inr (.within member there within)
  · have first : (name, s) ∈ (name, s) :: l := List.mem_cons_self
    rintro ((⟨member, there, named⟩ | ⟨member, there, nested⟩ | ⟨member, there, within⟩) |
      (⟨member, there, named⟩ | ⟨member, there, nested⟩ | ⟨member, there, within⟩))
    · exact .named (List.mem_singleton.mp member ▸ first) there named
    · exact .nested (List.mem_singleton.mp member ▸ first) there nested
    · exact .within (List.mem_singleton.mp member ▸ first) there within
    · exact .named (List.mem_cons_of_mem _ member) there named
    · exact .nested (List.mem_cons_of_mem _ member) there nested
    · exact .within (List.mem_cons_of_mem _ member) there within

theorem declares_singleton :
    Declares known [(name, s)] parent child ↔
      known name ∧ (parent = name ∧ (child ∈ s.named ∨ child ∈ s.nested.map (·.1)) ∨
        Declares known s.nested parent child) := by
  constructor
  · rintro (⟨member, there, named⟩ | ⟨member, there, nested⟩ | ⟨member, there, within⟩) <;>
      cases List.mem_singleton.mp member
    · exact ⟨there, .inl ⟨rfl, .inl named⟩⟩
    · exact ⟨there, .inl ⟨rfl, .inr (List.mem_map.mpr ⟨_, nested, rfl⟩)⟩⟩
    · exact ⟨there, .inr within⟩
  · have first : (name, s) ∈ [(name, s)] := List.mem_cons_self
    rintro ⟨there, ⟨rfl, named | nested⟩ | within⟩
    · exact .named first there named
    · obtain ⟨⟨child, s'⟩, member, rfl⟩ := List.mem_map.mp nested
      exact .nested first there member
    · exact .within first there within

end TutorialSettings

namespace Tutorials

open TutorialSettings

/-- The tutorial of that name has the child in its list. -/
def Lists (ts : Tutorials) (name child : String) : Prop :=
  ∃ t, ts.get? name = some t ∧ child ∈ t.children

/-! ### Settings -/

theorem keys_applyAll (ts : Tutorials) (l : List (String × TutorialSettings)) :
    (ts.applyAll l).1.keys = ts.keys := by
  revert ts l
  refine (Tutorials.apply.mutual_induct (fun ts name s => (ts.apply name s).1.keys = ts.keys)
    (fun ts l => (ts.applyAll l).1.keys = ts.keys) ?_ ?_ ?_ ?_).2
  · intro ts name title named nested unknown
    simp [apply, unknown]
  · intro ts name title named nested t known kept
    simp only [apply, known]
    rw [kept, Table.keys_insert (Table.mem_keys_of_get? known)]
  · intro ts
    rfl
  · intro ts name s rest ts₁ _ applied ts₂ _ all kept kept'
    simp only [applyAll, applied, all] at kept kept' ⊢
    rw [kept', kept]

theorem lists_insert_adjusted {ts : Tutorials} {name : String} {t : Tutorial}
    (known : ts.get? name = some t) (s : TutorialSettings) (parent child : String) :
    Lists (ts.insert name (t.adjusted s)) parent child ↔
      ts.Lists parent child ∨
        parent = name ∧ (child ∈ s.named ∨ child ∈ s.nested.map (·.1)) := by
  by_cases same : parent = name
  · subst same
    simp [Lists, Table.get?_insert, known, Tutorial.adjusted]
  · simp [Lists, Table.get?_insert, same]

/-- **What tutorials list once settings are applied**: what they listed before, and what the
settings declare. -/
theorem lists_applyAll (ts : Tutorials) (l : List (String × TutorialSettings))
    (parent child : String) :
    (ts.applyAll l).1.Lists parent child ↔
      ts.Lists parent child ∨ Declares (· ∈ ts.keys) l parent child := by
  revert ts l
  refine (Tutorials.apply.mutual_induct
    (fun ts name s => (ts.apply name s).1.keys = ts.keys ∧
      ((ts.apply name s).1.Lists parent child ↔
        ts.Lists parent child ∨ Declares (· ∈ ts.keys) [(name, s)] parent child))
    (fun ts l => (ts.applyAll l).1.Lists parent child ↔
      ts.Lists parent child ∨ Declares (· ∈ ts.keys) l parent child) ?_ ?_ ?_ ?_).2
  · intro ts name title named nested unknown
    have absent : name ∉ ts.keys := fun there => by
      obtain ⟨t, known⟩ := Table.mem_keys.mp there
      cases unknown.symm.trans known
    simp [apply, unknown, declares_singleton, absent]
  · intro ts name title named nested t known lists
    have there : name ∈ ts.keys := Table.mem_keys_of_get? known
    rw [Table.keys_insert there, lists_insert_adjusted known] at lists
    simp only [apply, known]
    refine ⟨by rw [keys_applyAll, Table.keys_insert there], ?_⟩
    rw [lists, declares_singleton, or_assoc, and_iff_right there]
  · intro ts
    simp [applyAll, declares_nil]
  · intro ts name s rest ts₁ _ applied ts₂ _ all lists lists'
    simp only [applyAll, applied, all] at lists lists' ⊢
    rw [lists', lists.1, lists.2, declares_cons (l := rest), or_assoc]

/-! ### Parents -/

theorem mem_claims {ts : Tutorials} {parent child : String} :
    (parent, child) ∈ ts.claims ↔ ts.Lists parent child := by
  simp only [claims, Lists, Table.get?_eq_some_iff, List.mem_flatMap, List.mem_map, Prod.mk.injEq]
  constructor
  · rintro ⟨⟨_, t⟩, member, _, listed, rfl, rfl⟩
    exact ⟨t, member, listed⟩
  · rintro ⟨t, member, listed⟩
    exact ⟨_, member, _, listed, rfl, rfl⟩

theorem pairwise_claims (ts : Tutorials) : ts.claims.Pairwise (·.1 ≤ ·.1) := by
  refine List.pairwise_flatMap.mpr ⟨fun e _ => ?_, ts.sorted.imp fun {e e'} before => ?_⟩
  · exact List.pairwise_map.mpr (List.pairwise_of_forall fun _ _ => Std.le_refl _)
  · intro x hx y hy
    obtain ⟨_, -, rfl⟩ := List.mem_map.mp hx
    obtain ⟨_, -, rfl⟩ := List.mem_map.mp hy
    exact Std.le_of_lt before

theorem get?_claim (ts : Tutorials) (parents : Parents) (name child other : String) :
    (ts.claim parents name child).1.get? other =
      (parents.get? other).or (if ts.contains child ∧ child = other then some name else none) := by
  cases there : ts.contains child with
  | false => simp [claim, there]
  | true =>
    cases taken : parents.get? child with
    | none =>
      by_cases same : child = other
      · subst same
        simp [claim, there, taken, Table.get?_insert]
      · simp [claim, there, taken, Table.get?_insert, same, Ne.symm same]
    | some parent =>
      by_cases same : child = other
      · subst same
        simp [claim, there, taken]
      · simp [claim, there, taken, same]

theorem get?_parents (ts : Tutorials) (child : String) :
    ts.parents.1.get? child =
      if ts.contains child then (ts.claims.find? (·.2 = child)).map (·.1) else none := by
  have fold (l : List (String × String)) (parents : Parents) (log : List Event) :
      (l.foldl (fun state claim =>
        ((ts.claim state.1 claim.1 claim.2).1,
          state.2 ++ (ts.claim state.1 claim.1 claim.2).2)) (parents, log)).1.get? child =
      (parents.get? child).or
        (if ts.contains child then (l.find? (·.2 = child)).map (·.1) else none) := by
    induction l generalizing parents log with
    | nil => simp
    | cons claim rest ih =>
      obtain ⟨name, other⟩ := claim
      rw [List.foldl_cons, ih, get?_claim, Option.or_assoc]
      by_cases same : other = child
      · subst same
        cases ts.contains other <;> simp
      · simp [same]
  exact fold ts.claims ∅ []

/-- The tutorial that gets the child: the first by name of those that list it. -/
structure IsParent (ts : Tutorials) (parent child : String) : Prop where
  known : child ∈ ts.keys
  lists : ts.Lists parent child
  first : ∀ other, ts.Lists other child → parent ≤ other

theorem IsParent.unique {ts : Tutorials} {parent parent' child : String}
    (h : ts.IsParent parent child) (h' : ts.IsParent parent' child) : parent = parent' :=
  Std.le_antisymm (h.first _ h'.lists) (h'.first _ h.lists)

theorem isParent_of_get?_parents {ts : Tutorials} {parent child : String}
    (found : ts.parents.1.get? child = some parent) : ts.IsParent parent child := by
  rw [get?_parents] at found
  have there : ts.contains child := by
    refine Decidable.byContradiction fun absent => ?_
    simp [absent] at found
  rw [if_pos there, Option.map_eq_some_iff] at found
  obtain ⟨⟨parent, other⟩, found, rfl⟩ := found
  obtain ⟨same, before, after, split, others⟩ := List.find?_eq_some_iff_append.mp found
  obtain rfl : other = child := of_decide_eq_true same
  refine ⟨Table.contains_iff.mp there, mem_claims.mp (List.mem_of_find?_eq_some found),
    fun name lists => ?_⟩
  have ordered := ts.pairwise_claims
  have claimed := mem_claims.mpr lists
  rw [split] at ordered claimed
  rcases List.mem_append.mp claimed with early | late
  · simpa using others _ early
  · rcases List.mem_cons.mp late with same | late
    · cases same
      exact Std.le_refl _
    · exact (List.pairwise_cons.mp (List.pairwise_append.mp ordered).2.1).1 _ late

theorem get?_parents_eq_some_iff {ts : Tutorials} {parent child : String} :
    ts.parents.1.get? child = some parent ↔ ts.IsParent parent child := by
  refine ⟨isParent_of_get?_parents, fun h => ?_⟩
  obtain ⟨first, found⟩ : ∃ first, ts.parents.1.get? child = some first := by
    rw [← Option.isSome_iff_exists, get?_parents, if_pos (Table.contains_iff.mpr h.known),
      Option.isSome_map, List.find?_isSome]
    exact ⟨_, mem_claims.mpr h.lists, decide_eq_true rfl⟩
  rw [found, (isParent_of_get?_parents found).unique h]

theorem get?_parents_eq_none_iff {ts : Tutorials} {child : String} (known : child ∈ ts.keys) :
    ts.parents.1.get? child = none ↔ ∀ name, ¬ ts.Lists name child := by
  rw [get?_parents, if_pos (Table.contains_iff.mpr known), Option.map_eq_none_iff,
    List.find?_eq_none]
  constructor
  · exact fun none name lists => none _ (mem_claims.mpr lists) (decide_eq_true rfl)
  · rintro unlisted ⟨name, other⟩ claimed same
    obtain rfl : other = child := of_decide_eq_true same
    exact unlisted name (mem_claims.mp claimed)

end Tutorials

end RefDoc
