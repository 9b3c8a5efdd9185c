import Mathlib.Logic.Relation
import RefDoc.Hierarchy.Passes
import RefDoc.Proofs.Doclet.Index

/-!
# The steps of the passes

Augmenting changes a collection in three ways (`Step`): a member is copied to a symbol that has none
of its name and scope, a member of an interface is noted on its implementations, and the index is
rebuilt. `augment_steps` says that the pass is a run of such steps, so that it keeps what each step
keeps (`Steps.keep`).
-/

namespace RefDoc

/-- The rules by which members are copied. -/
inductive CopyRule.Known : CopyRule → Prop where
  | mixing (m : Mixing) : Known m.rule
  | inheritance : Known Collection.inheritance

theorem Ancestry.visited_empty : (∅ : Ancestry).visited = {} := by
  unfold Ancestry.visited
  rw [show (∅ : Ancestry).keys = [] from rfl, Ancestry.visitAll]

namespace Collection

/-- One change that augmenting makes. -/
inductive Step : Collection → Collection → Prop where
  /-- `target` gets a copy of the shared member `m`, which it has not got. -/
  | copy {c : Collection} {rule : CopyRule} {target : String} {m : Doclet} (known : rule.Known)
      (present : m ∈ c.doclets) (shared : m.scope ≠ some .inner)
      (missing : c.hasMember target m.name (some (rule.scope m)) = false) :
      Step c (c.push (rule.copy target m))
  | implement (c : Collection) (owner : String) (m : Doclet) : Step c (implementMember owner c m)
  | reindex (c : Collection) : Step c c.reindex

abbrev Steps : Collection → Collection → Prop := Relation.ReflTransGen Step

/-- What every step keeps, a run of steps keeps. -/
theorem Steps.keep {P : Collection → Prop} (step : ∀ {c c'}, Step c c' → P c → P c')
    {c c' : Collection} (h : Steps c c') (start : P c) : P c' := by
  induction h with
  | refl => exact start
  | tail _ last ih => exact step last ih

theorem steps_foldl {α : Type} {f : Collection → α → Collection} (step : ∀ c a, Steps c (f c a))
    (l : List α) (c : Collection) : Steps c (l.foldl f c) := by
  induction l generalizing c with
  | nil => exact .refl
  | cons a rest ih => exact (step c a).trans (ih (f c a))

/-! ### Augmenting -/

/-- The members were listed before the first copy was made; they are still there, since copies are
only added. -/
theorem steps_foldl_addCopy {rule : CopyRule} (known : rule.Known) (target : String)
    (ms : List Doclet) (c : Collection) (present : ∀ m ∈ ms, m ∈ c.doclets ∧ m.scope ≠ some .inner) :
    Steps c (ms.foldl (addCopy rule target) c) := by
  induction ms generalizing c with
  | nil => exact .refl
  | cons m rest ih =>
    have later : ∀ m' ∈ rest, m' ∈ c.doclets ∧ m'.scope ≠ some .inner := fun m' hm =>
      present m' (List.mem_cons_of_mem _ hm)
    obtain ⟨here, shared⟩ := present m List.mem_cons_self
    rw [List.foldl_cons]
    cases owned : c.hasMember target m.name (some (rule.scope m)) with
    | true =>
      rw [addCopy, if_pos owned]
      exact ih c later
    | false =>
      rw [addCopy, if_neg (Bool.eq_false_iff.1 owned)]
      refine .head (.copy known here shared owned) (ih _ fun m' hm => ⟨?_, (later m' hm).2⟩)
      exact List.mem_append_left _ (later m' hm).1

theorem copyMembers_steps (c : Collection) {rule : CopyRule} (known : rule.Known)
    (source target : String) : Steps c (c.copyMembers rule source target) := by
  refine steps_foldl_addCopy known target _ c fun m hm => ?_
  obtain ⟨member, shared⟩ := List.mem_filter.1 hm
  exact ⟨(List.mem_filter.1 member).1, bne_iff_ne.1 shared⟩

theorem mixIn_steps (c : Collection) (m : Mixing) : Steps c (c.mixIn m) :=
  copyMembers_steps c (.mixing m) m.mixin m.target

theorem inherit_steps (c : Collection) (d : Descent) : Steps c (c.inherit d) :=
  copyMembers_steps c .inheritance d.2 d.1

theorem implement_steps (c : Collection) (i : String × String) : Steps c (c.implement i) :=
  steps_foldl (fun c m => .single (.implement c i.1 m)) _ c

theorem addMixedIn_steps (c : Collection) : Steps c c.addMixedIn.1 := by
  rw [addMixedIn, foldLogged_fst]
  exact steps_foldl mixIn_steps _ c

theorem addInherited_steps (c : Collection) : Steps c c.addInherited.1 := by
  show Steps c (foldLogged inherit _ c c.descents).1
  rw [foldLogged_fst]
  exact steps_foldl inherit_steps _ c

theorem addInherited_of_none {c : Collection} (none : ∀ d ∈ c.doclets, d.augments = []) :
    c.addInherited.1 = c := by
  have ancestry : c.ancestry = ∅ := by
    unfold ancestry Ancestry.ofDoclets
    rw [List.filter_eq_nil_iff.2 fun d hd => by simp [none d hd]]
    rfl
  have order : c.descents = [] := by
    unfold descents inheritanceOrder
    rw [ancestry, Ancestry.visited_empty]
    rfl
  show (foldLogged inherit _ c c.descents).1 = c
  rw [order]
  rfl

theorem addImplemented_steps (c : Collection) : Steps c c.addImplemented :=
  steps_foldl implement_steps _ c

/-- Augmenting is a run of steps, the last of which rebuilds the index. -/
theorem augment_steps (c : Collection) : Steps c c.augment.1 :=
  ((addMixedIn_steps c).trans (addInherited_steps _)).trans
    ((addImplemented_steps _).trans (.single (.reindex _)))

end Collection

end RefDoc
