import Mathlib.Data.List.Forall2
import RefDoc.Proofs.Hierarchy.Borrowed

/-!
# What the passes add

The passes put doclets behind those that were there, and each of them is a copy of one that was
there (`Doclet.HasCopy`). A doclet that was there stays in its place; all that may happen to it is
that its borrows are cleared, and that it gets a description and notes on what it implements
(`Doclet.Enriches`). `Extends` says both of a collection that is made from another; every step of
augmenting keeps it, so that the passes do (`passes_append`).
-/

namespace RefDoc

namespace Doclet

/-! ### Doclets that stay -/

/-- `after` is `before`, perhaps with a description that it had not and with more to implement. -/
structure Enriches (before after : Doclet) : Prop where
  same : after =
    { before with description := after.description, implements := after.implements }
  description : ∀ text, before.description = some text → after.description = some text
  implements : before.implements <+: after.implements

theorem Enriches.refl (d : Doclet) : d.Enriches d := ⟨rfl, fun _ => id, List.prefix_refl _⟩

theorem Enriches.trans {d e f : Doclet} (first : d.Enriches e) (second : e.Enriches f) :
    d.Enriches f where
  same := by rw [second.same, first.same]
  description text h := second.description text (first.description text h)
  implements := first.implements.trans second.implements

theorem enriches_implementing (d m : Doclet) : d.Enriches (d.implementing m) where
  same := rfl
  description text h := by simp [implementing, h]
  implements := by
    unfold implementing
    dsimp only
    split
    · exact List.prefix_refl _
    · exact List.prefix_append _ _

theorem Enriches.cleared {before after : Doclet} (h : before.Enriches after) :
    { before with borrowed := [] }.Enriches { after with borrowed := [] } where
  same := by rw [h.same]
  description := h.description
  implements := h.implements

/-! ### Doclets that are added -/

/-- `copy` has the content of `source`. What may differ is its name and place, the notes on how it
was copied, and what the passes may change of any doclet. -/
structure Resembles (source copy : Doclet) : Prop where
  same : copy =
    { source with
      name := copy.name, longname := copy.longname, memberOf := copy.memberOf, scope := copy.scope
      description := copy.description, implements := copy.implements, borrowed := copy.borrowed
      inherited := copy.inherited, inherits := copy.inherits, mixed := copy.mixed }
  description : ∀ text, source.description = some text → copy.description = some text
  implements : source.implements <+: copy.implements
  borrowed : copy.borrowed = source.borrowed ∨ copy.borrowed = []

/-- `copy` is a copy of `source` that has become the member of some symbol. -/
structure HasCopy (source copy : Doclet) : Prop extends Resembles source copy where
  member : ∃ parent scope, copy.memberOf = some parent ∧ copy.scope = some scope ∧
    copy.longname = parent ++ scope.separator ++ copy.name

theorem Resembles.trans {d e f : Doclet} (first : d.Resembles e) (second : e.Resembles f) :
    d.Resembles f where
  same := by rw [second.same, first.same]
  description text h := second.description text (first.description text h)
  implements := first.implements.trans second.implements
  borrowed := by
    rcases second.borrowed with same | none
    · rw [same]
      exact first.borrowed
    · exact .inr none

theorem Enriches.resembles {d e : Doclet} (h : d.Enriches e) : d.Resembles e where
  same := by rw [h.same]
  description := h.description
  implements := h.implements
  borrowed := .inl (by rw [h.same])

theorem resembles_cleared (d : Doclet) : d.Resembles { d with borrowed := [] } :=
  ⟨rfl, fun _ => id, List.prefix_refl _, .inr rfl⟩

theorem resembles_renamed (d : Doclet) (name : String) (parent : String) (scope : Scope) :
    d.Resembles ({ d with name }.setMemberOf parent scope) :=
  ⟨rfl, fun _ => id, List.prefix_refl _, .inl rfl⟩

/-- Nothing that may still be done to a copy makes it less of one. -/
theorem HasCopy.enriches {d e f : Doclet} (h : d.HasCopy e) (later : e.Enriches f) :
    d.HasCopy f where
  toResembles := h.toResembles.trans later.resembles
  member := by
    rw [later.same]
    exact h.member

theorem HasCopy.cleared {d e : Doclet} (h : d.HasCopy e) : d.HasCopy { e with borrowed := [] } where
  toResembles := h.toResembles.trans (resembles_cleared e)
  member := h.member

end Doclet

theorem CopyRule.hasCopy {rule : CopyRule} (known : rule.Known) (target : String) (m : Doclet) :
    m.HasCopy (rule.copy target m) where
  toResembles := by
    cases known with
    | mixing mixing => exact ⟨rfl, fun _ => id, List.prefix_refl _, .inl rfl⟩
    | inheritance => exact ⟨rfl, fun _ => id, List.prefix_refl _, .inl rfl⟩
  member := by
    cases known with
    | mixing mixing => exact ⟨target, mixing.rule.scope m, rfl, rfl, rfl⟩
    | inheritance => exact ⟨target, Collection.inheritance.scope m, rfl, rfl, rfl⟩

theorem Borrow.hasCopy (b : Borrow) (borrower : String) (source : Doclet) :
    source.HasCopy (b.copy borrower source) where
  toResembles := Doclet.resembles_renamed source _ borrower _
  member := ⟨borrower, _, rfl, rfl, rfl⟩

namespace Collection

/-- The doclets begin with the originals, each of them related to what it is now, and go on with
copies of originals. -/
def Extends (relation : Doclet → Doclet → Prop) (originals : List Doclet) (c : Collection) :
    Prop :=
  ∃ kept copies, c.doclets = kept ++ copies ∧ List.Forall₂ relation originals kept ∧
    ∀ d ∈ copies, ∃ source ∈ originals, source.HasCopy d

variable {originals : List Doclet} {c c' : Collection}

theorem extends_refl (c : Collection) : c.Extends Doclet.Enriches c.doclets := by
  refine ⟨c.doclets, [], (List.append_nil _).symm, ?_, fun _ h => absurd h List.not_mem_nil⟩
  exact List.forall₂_same.2 fun d _ => .refl d

/-- Every doclet, kept or copied, goes back to an original. -/
theorem Extends.origin (h : c.Extends Doclet.Enriches originals) {d : Doclet}
    (hd : d ∈ c.doclets) : ∃ source ∈ originals, source.Resembles d := by
  obtain ⟨kept, copies, all, same, copied⟩ := h
  rw [all] at hd
  rcases List.mem_append.1 hd with old | new
  · obtain ⟨i, hi, rfl⟩ := List.mem_iff_getElem.1 old
    have bound : i < originals.length := same.length_eq ▸ hi
    exact ⟨originals[i], List.getElem_mem bound, (same.get bound hi).resembles⟩
  · obtain ⟨source, hs, copy⟩ := copied d new
    exact ⟨source, hs, copy.toResembles⟩

theorem Extends.push (h : c.Extends Doclet.Enriches originals) {m d : Doclet}
    (present : m ∈ c.doclets) (copy : m.HasCopy d) :
    (c.push d).Extends Doclet.Enriches originals := by
  obtain ⟨source, hs, alike⟩ := h.origin present
  obtain ⟨kept, copies, all, same, copied⟩ := h
  refine ⟨kept, copies ++ [d], by rw [doclets_push, all, List.append_assoc], same, fun e he => ?_⟩
  rcases List.mem_append.1 he with old | new
  · exact copied e old
  · rw [List.mem_singleton.1 new]
    exact ⟨source, hs, alike.trans copy.toResembles, copy.member⟩

theorem Extends.mapDoclets {f : Doclet → Doclet} {relation later : Doclet → Doclet → Prop}
    (h : c.Extends relation originals) (keeps : ∀ d e, relation d e → later d (f e))
    (copies : ∀ d e, Doclet.HasCopy d e → Doclet.HasCopy d (f e)) :
    (c.mapDoclets f).Extends later originals := by
  obtain ⟨kept, added, all, same, copied⟩ := h
  refine ⟨kept.map f, added.map f, ?_, ?_, fun e he => ?_⟩
  · show c.doclets.map f = _
    rw [all, List.map_append]
  · exact List.forall₂_map_right_iff.2 (same.imp fun d e => keeps d e)
  · obtain ⟨d, hd, rfl⟩ := List.mem_map.1 he
    obtain ⟨source, hs, copy⟩ := copied d hd
    exact ⟨source, hs, copies source d copy⟩

/-! ### The passes -/

theorem Step.extends (step : Step c c') (h : c.Extends Doclet.Enriches originals) :
    c'.Extends Doclet.Enriches originals := by
  cases step with
  | copy known present _ _ => exact h.push present (CopyRule.hasCopy known _ _)
  | implement owner m =>
    have noted : ∀ d : Doclet, d.Enriches
        (if d.memberOf == some owner && d.name == m.name then d.implementing m else d) := by
      intro d
      split
      · exact d.enriches_implementing m
      · exact .refl d
    exact h.mapDoclets (fun _ e before => before.trans (noted e)) fun _ e copy =>
      copy.enriches (noted e)
  | reindex => exact h

theorem extends_augmented (c : Collection) : c.augmented.Extends Doclet.Enriches c.doclets :=
  (augment_steps c.reindex).keep Step.extends (extends_refl c)

theorem Extends.resolveBorrows (h : c.Extends Doclet.Enriches originals) (exact : c.Exact) :
    c.resolveBorrows.1.Extends
      (fun before after => { before with borrowed := [] }.Enriches after) originals := by
  have settled : (c.mapDoclets fun d => { d with borrowed := [] }).Extends
      (fun before after => { before with borrowed := [] }.Enriches after) originals :=
    h.mapDoclets (fun _ _ => Doclet.Enriches.cleared) fun _ _ => Doclet.HasCopy.cleared
  obtain ⟨kept, copies, all, same, copied⟩ := settled
  refine ⟨kept, copies ++ c.borrowedCopies, ?_, same, fun d hd => ?_⟩
  · rw [doclets_resolveBorrows, ← List.append_assoc, ← all]
    rfl
  · rcases List.mem_append.1 hd with old | new
    · exact copied d old
    · obtain ⟨borrower, -, b, -, source, found, rfl⟩ := mem_borrowedCopies.1 new
      rw [exact.head?_byLongname] at found
      obtain ⟨original, ho, alike⟩ := h.origin (List.mem_of_find?_eq_some found)
      have copy := b.hasCopy borrower.longname source
      exact ⟨original, ho, alike.trans copy.toResembles, copy.member⟩

/-- **The passes only append.** The doclets that were there come first and in their order: each has
lost its borrows and may have got a description where it had none and more that it implements, and
is otherwise the same. All others are copies of them that are members. -/
theorem passes_append {σ : Type} (c : Collection) (desk : Desk σ) :
    let processed := ((PostProcessor.standard.run c).run desk).1
    ∃ kept copies, processed.doclets = kept ++ copies ∧
      List.Forall₂ (fun before after => { before with borrowed := [] }.Enriches after)
        c.doclets kept ∧
      ∀ d ∈ copies, ∃ source ∈ c.doclets, source.HasCopy d := by
  intro processed
  have passed : processed = c.processed := run_standard c desk
  rw [passed]
  exact (extends_augmented c).resolveBorrows (exact_augmented c)

/-- `box` mixes in `lid`, and borrows the only member of `lid` under another name. -/
def lending : Collection :=
  ofList [{ Doclet.named "box" .classType with
      mixes := ["lid"], borrowed := [⟨"lid.shut", "close"⟩] },
    Doclet.named "lid" .mixin, (Doclet.named "shut" .function).setMemberOf "lid" .static]

/-- The borrowed member of `box`, behind the one that is mixed in. -/
def lent : Doclet := (Doclet.named "close" .function).setMemberOf "box" .static

theorem passes_append_lending :
    lending.processed.doclets.map (·.longname) =
        ["box", "lid", "lid.shut", "box#shut", "box.close"] ∧
      lending.processed.get? 4 = some lent ∧ ∃ source ∈ lending.doclets, source.HasCopy lent := by
  have augmented : lending.augmented = (lending.reindex.addMixedIn.1).addImplemented.reindex := by
    show lending.reindex.addMixedIn.1.addInherited.1.addImplemented.reindex = _
    rw [addInherited_of_none (by decide)]
  have names : lending.processed.doclets.map (·.longname) =
      ["box", "lid", "lid.shut", "box#shut", "box.close"] := by
    unfold processed
    rw [augmented]
    rfl
  have last : lending.processed.get? 4 = some lent := by
    unfold processed
    rw [augmented]
    rfl
  obtain ⟨kept, copies, all, same, copied⟩ := passes_append lending (⟨⟨[], []⟩, ()⟩ : Desk Unit)
  have three : kept.length = 3 := same.length_eq.symm
  have added : copies[4 - kept.length]? = some lent := by
    rw [← last, get?, ← run_standard lending ⟨⟨[], []⟩, ()⟩, all,
      List.getElem?_append_right (by omega)]
  exact ⟨names, last, copied lent (List.mem_of_getElem? added)⟩

end Collection

end RefDoc
