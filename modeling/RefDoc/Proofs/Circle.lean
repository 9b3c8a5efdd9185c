import Mathlib.Data.Fintype.Pigeonhole
import Mathlib.Data.Set.Finite.List
import Mathlib.Logic.Relation

/-!
# Circles in finite relations

Of finitely many things let each be related to another of them: then whoever follows the relation
comes to a circle (`exists_circle`). A list in which nothing is related to itself or to what comes
later has no such things in it (`unsupported`).
-/

namespace RefDoc

open Relation

variable {α : Type} {r : α → α → Prop} {l : List α}

/-- Whoever always finds a next member of the list comes back to one. -/
theorem exists_circle (next : ∀ x ∈ l, ∃ y ∈ l, r x y) {x : α} (member : x ∈ l) :
    ∃ z ∈ l, ReflTransGen r x z ∧ TransGen r z z := by
  have : Finite {x // x ∈ l} := (List.finite_toSet l).to_subtype
  choose! f inside related using next
  let step (y : {x // x ∈ l}) : {x // x ∈ l} := ⟨f y, inside y y.2⟩
  let walk (n : Nat) : {x // x ∈ l} := step^[n] ⟨x, member⟩
  have succ (n : Nat) : r (walk n) (walk (n + 1)) := by
    show r (walk n) (step^[n + 1] ⟨x, member⟩ : {x // x ∈ l})
    rw [Function.iterate_succ_apply']
    exact related _ (walk n).2
  have onward (n k : Nat) : ReflTransGen r (walk n : α) (walk (n + k)) := by
    induction k with
    | zero => exact .refl
    | succ k ih => exact ih.tail (succ (n + k))
  have back {i j : Nat} (before : i < j) (same : walk i = walk j) :
      ∃ z ∈ l, ReflTransGen r x z ∧ TransGen r z z := by
    refine ⟨walk i, (walk i).2, ?_, ?_⟩
    · have := onward 0 i
      rwa [Nat.zero_add] at this
    · obtain ⟨k, rfl⟩ := Nat.exists_eq_add_of_lt before
      have circle : TransGen r (walk i : α) (walk (i + k + 1)) := .tail' (onward i k) (succ (i + k))
      rwa [← same] at circle
  obtain ⟨i, j, differ, same⟩ := Finite.exists_ne_map_eq_of_infinite walk
  rcases Nat.lt_or_gt_of_ne differ with before | after
  · exact back before same
  · exact back after same.symm

/-- Where nothing is related to itself or to what comes later, no members support each other. -/
theorem unsupported (ordered : l.Pairwise fun x y => ¬ r x y) (apart : ∀ x ∈ l, ¬ r x x)
    {P : α → Prop} (support : ∀ x ∈ l, P x → ∃ y ∈ l, P y ∧ r x y) : ∀ x ∈ l, ¬ P x := by
  induction l with
  | nil => nofun
  | cons first rest ih =>
    obtain ⟨last, ordered⟩ := List.pairwise_cons.mp ordered
    obtain ⟨apart_first, apart⟩ := List.forall_mem_cons.mp apart
    have first_not : ¬ P first := fun holds => by
      obtain ⟨y, member, -, related⟩ := support first List.mem_cons_self holds
      rcases List.mem_cons.mp member with rfl | later
      · exact apart_first related
      · exact last y later related
    refine List.forall_mem_cons.mpr ⟨first_not, ih ordered apart fun x member holds => ?_⟩
    obtain ⟨y, found, holds', related⟩ := support x (List.mem_cons_of_mem _ member) holds
    rcases List.mem_cons.mp found with rfl | later
    · exact absurd holds' first_not
    · exact ⟨y, later, holds', related⟩

end RefDoc
