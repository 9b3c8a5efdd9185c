import RefDoc.Proofs.Hierarchy.Steps

/-!
# The index through the passes

The passes add doclets one by one and change others in place, in the middle of loops that look
doclets up. None of their steps makes an exact index inexact (`Step.exact`), and the first of them
makes any index exact.
-/

namespace RefDoc.Collection

theorem Step.exact {c c' : Collection} (step : Step c c') (h : c.Exact) : c'.Exact := by
  cases step with
  | copy => exact exact_push h _
  | implement owner m =>
    refine h.mapDoclets fun d => ?_
    split <;> rfl
  | reindex => exact exact_reindex c

theorem Steps.exact {c c' : Collection} (steps : Steps c c') (h : c.Exact) : c'.Exact :=
  steps.keep Step.exact h

/-- Augmenting ends with a new index, so that it does not matter how exact the old one is. -/
theorem exact_augment (c : Collection) : c.augment.1.Exact := exact_reindex _

theorem exact_resolveBorrows {c : Collection} (h : c.Exact) : c.resolveBorrows.1.Exact :=
  exact_pushAll (h.mapDoclets (f := fun d => { d with borrowed := [] }) fun _ => rfl) _

/-! ### All passes -/

/-- The collection before borrows are resolved. -/
def augmented (c : Collection) : Collection := c.reindex.augment.1

/-- The collection after all passes. -/
def processed (c : Collection) : Collection := c.augmented.resolveBorrows.1

theorem run_standard {σ : Type} (c : Collection) (desk : Desk σ) :
    ((PostProcessor.standard.run c).run desk).1 = c.processed := rfl

theorem exact_augmented (c : Collection) : c.augmented.Exact := exact_augment _

theorem exact_processed (c : Collection) : c.processed.Exact :=
  exact_resolveBorrows (exact_augmented c)

/-- **The longname index is exact.** Whatever is done to a collection, its positions are in bounds
and every longname finds the doclets at its positions; the index is exact while no longname has been
changed. Of any collection, however stale its index, the passes make one with an exact index, which
stays exact at every step of augmenting. -/
theorem index_exact {σ : Type} (operations : List Operation) (c : Collection) (desk : Desk σ) :
    let h := History.run operations
    let indexed := (PostProcessor.standard.index c).run desk
    let augmented := (PostProcessor.standard.augment indexed.1).run indexed.2.1
    let resolved := (PostProcessor.standard.resolveBorrows augmented.1).run augmented.2.1
    h.collection.InBounds ∧
      (∀ longname, (h.collection.byLongname longname).map some =
        (h.collection.positions longname).map h.collection.get?) ∧
      (h.renamed = false → h.collection.Exact) ∧
      indexed.1.Exact ∧ augmented.1.Exact ∧ resolved.1.Exact ∧
      (∀ c', Steps indexed.1 c' → c'.Exact) ∧
      ((PostProcessor.standard.augment c).run desk).1.Exact := by
  intro h indexed augmented resolved
  have sound : h.Sound := History.sound_run operations
  have first : indexed.1.Exact := exact_reindex c
  have second : augmented.1.Exact := exact_augment indexed.1
  have third : resolved.1.Exact := exact_resolveBorrows second
  have between : ∀ c', Steps indexed.1 c' → c'.Exact := fun _ steps => steps.exact first
  exact ⟨sound.inBounds, sound.inBounds.byLongname, sound.exact, first, second, third, between,
    exact_augment c⟩

/-- A doclet is renamed, the index is rebuilt, and another one of the new name is added. -/
def renameOps : List Operation :=
  [.push (Doclet.named "a" .function), .edit 0 fun d => { d with longname := "b" }, .reindex,
    .push (Doclet.named "b" .member)]

theorem index_exact_renaming :
    (History.run renameOps).renamed = false ∧ (History.run renameOps).collection.Exact ∧
      (History.run renameOps).collection.positions "b" = [0, 1] := by
  have unchanged : (History.run renameOps).renamed = false := rfl
  have all := index_exact renameOps empty (⟨⟨[], []⟩, ()⟩ : Desk Unit)
  exact ⟨unchanged, all.2.2.1 unchanged, rfl⟩

end RefDoc.Collection
