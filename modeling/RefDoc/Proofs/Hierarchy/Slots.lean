import Mathlib.Data.List.Nodup
import RefDoc.Proofs.Hierarchy.Appending
import RefDoc.Proofs.Hierarchy.Inheriting

/-!
# Slots

Whose member a doclet is, its name and its scope make its slot. A copy is made only for a slot that
nobody has (`Collection.Step.slots`), and nothing that augmenting does later gives the slot to
somebody else or takes it from its owner. So a run of steps takes slots that were free, each of them
once (`Collection.Steps.slots`), and copies never clash with each other or with what was there
(`Collection.copies_apart`).
-/

namespace RefDoc

/-- The place of a doclet among the members of a symbol. -/
structure Slot where
  memberOf : Option String
  name : String
  scope : Option Scope
  deriving DecidableEq, Repr

/-- The slot of a copy: it belongs to somebody, in some scope. -/
def Slot.Taken (s : Slot) : Prop := s.memberOf ≠ none ∧ s.scope ≠ none

namespace Doclet

def slot (d : Doclet) : Slot := ⟨d.memberOf, d.name, d.scope⟩

theorem slot_implementing (d m : Doclet) : (d.implementing m).slot = d.slot := rfl

end Doclet

theorem CopyRule.slot_copy {rule : CopyRule} (known : rule.Known) (target : String) (m : Doclet) :
    (rule.copy target m).slot = ⟨some target, m.name, some (rule.scope m)⟩ := by
  obtain ⟨memberOf, name, scope⟩ := CopyRule.member_copy known target m
  rw [Doclet.slot, memberOf, name, scope]

namespace Collection

variable {c c' : Collection}

def slots (c : Collection) : List Slot := c.doclets.map Doclet.slot

@[simp] theorem slots_push (c : Collection) (d : Doclet) :
    (c.push d).slots = c.slots ++ [d.slot] := by
  rw [slots, doclets_push, List.map_append, List.map_singleton, slots]

theorem getElem?_slots {i : Nat} {d : Doclet} (h : c.get? i = some d) :
    c.slots[i]? = some d.slot := by
  rw [slots, List.getElem?_map, show c.doclets[i]? = some d from h, Option.map_some]

theorem hasMember_iff_slots {parent name : String} {scope : Option Scope} :
    c.hasMember parent name scope = true ↔ ⟨some parent, name, scope⟩ ∈ c.slots := by
  simp [hasMember_iff, slots, Doclet.slot]

/-- A step takes one slot that was free, or none. -/
theorem Step.slots (step : Step c c') :
    c'.slots = c.slots ∨ ∃ s, c'.slots = c.slots ++ [s] ∧ s ∉ c.slots ∧ s.Taken := by
  cases step with
  | @copy rule target m known _ _ missing =>
    refine .inr ⟨(rule.copy target m).slot, slots_push c _, ?_⟩
    rw [CopyRule.slot_copy known, ← hasMember_iff_slots, missing]
    exact ⟨Bool.false_ne_true, Option.some_ne_none _, Option.some_ne_none _⟩
  | implement owner m =>
    refine .inl ?_
    show (c.doclets.map _).map Doclet.slot = c.doclets.map Doclet.slot
    rw [List.map_map]
    refine List.map_congr_left fun d _ => ?_
    show Doclet.slot (if _ then _ else _) = _
    split
    · exact d.slot_implementing m
    · rfl
  | reindex => exact .inl rfl

/-- **Steps take free slots.** What a run of steps adds takes slots that were free, each once. -/
theorem Steps.slots (steps : Steps c c') :
    ∃ taken, c'.slots = c.slots ++ taken ∧ taken.Nodup ∧ ∀ s ∈ taken, s ∉ c.slots ∧ s.Taken := by
  induction steps with
  | refl => exact ⟨[], (List.append_nil _).symm, .nil, nofun⟩
  | tail _ last ih =>
    obtain ⟨taken, all, once, free⟩ := ih
    rcases last.slots with same | ⟨s, more, fresh, own⟩
    · exact ⟨taken, same.trans all, once, free⟩
    · rw [all, List.mem_append, not_or] at fresh
      refine ⟨taken ++ [s], by rw [more, all, List.append_assoc], ?_, ?_⟩
      · exact List.nodup_append.mpr ⟨once, List.nodup_singleton s, fun x there y here same =>
          fresh.2 (List.mem_singleton.mp here ▸ same ▸ there)⟩
      · exact List.forall_mem_append.mpr ⟨free, List.forall_mem_singleton.mpr ⟨fresh.1, own⟩⟩

/-! ### Members that stay apart -/

/-- No two members have the same slot. -/
def MembersApart (c : Collection) : Prop :=
  c.doclets.Pairwise fun d e => d.memberOf ≠ none → d.slot ≠ e.slot

instance (c : Collection) : Decidable c.MembersApart :=
  inferInstanceAs (Decidable (List.Pairwise _ _))

theorem membersApart_iff :
    c.MembersApart ↔ c.slots.Pairwise fun s t => s.memberOf ≠ none → s ≠ t := by
  rw [slots, List.pairwise_map]
  rfl

theorem Steps.membersApart (steps : Steps c c') (apart : c.MembersApart) : c'.MembersApart := by
  obtain ⟨taken, all, once, free⟩ := steps.slots
  rw [membersApart_iff] at apart ⊢
  rw [all, List.pairwise_append]
  have added : taken.Pairwise fun s t => s.memberOf ≠ none → s ≠ t := by
    refine List.Pairwise.imp ?_ once
    exact fun differ _ => differ
  refine ⟨apart, added, fun s own t copied _ same => ?_⟩
  exact (free t copied).1 (same ▸ own)

/-- Every member has a scope. -/
def Scoped (c : Collection) : Prop := ∀ d ∈ c.doclets, d.memberOf ≠ none → d.scope ≠ none

theorem scoped_iff : c.Scoped ↔ ∀ s ∈ c.slots, s.memberOf ≠ none → s.scope ≠ none := by
  rw [slots, List.forall_mem_map]
  rfl

theorem Steps.scoped (steps : Steps c c') (given : c.Scoped) : c'.Scoped := by
  obtain ⟨taken, all, -, free⟩ := steps.slots
  rw [scoped_iff] at given ⊢
  rw [all]
  exact List.forall_mem_append.mpr ⟨given, fun s copied _ => (free s copied).2.2⟩

/-! ### Positions -/

theorem Steps.alone (steps : Steps c c') {i j : Nat} {copy other : Doclet} (behind : c.size ≤ i)
    (there : c'.get? i = some copy) (found : c'.get? j = some other) :
    copy.slot.Taken ∧ (other.slot = copy.slot → j = i) := by
  obtain ⟨taken, all, once, free⟩ := steps.slots
  have size : c.slots.length = c.size := List.length_map _
  have at_i := getElem?_slots there
  rw [all, List.getElem?_append_right (by omega)] at at_i
  obtain ⟨missing, own⟩ := free copy.slot (List.mem_of_getElem? at_i)
  refine ⟨own, fun same => ?_⟩
  have at_j := getElem?_slots found
  rw [all, same] at at_j
  rcases Nat.lt_or_ge j c.slots.length with before | later
  · rw [List.getElem?_append_left before] at at_j
    exact absurd (List.mem_of_getElem? at_j) missing
  · rw [List.getElem?_append_right later] at at_j
    obtain ⟨bound, -⟩ := List.getElem?_eq_some_iff.mp at_j
    have := (List.getElem?_inj bound once).mp (at_j.trans at_i.symm)
    omega

theorem Steps.stays (steps : Steps c c') {i : Nat} {own : Doclet} (there : c.get? i = some own) :
    ∃ kept, c'.get? i = some kept ∧ own.Enriches kept := by
  obtain ⟨kept, copies, all, same, -⟩ := steps.keep Step.extends (extends_refl c)
  obtain ⟨bound, rfl⟩ := List.getElem?_eq_some_iff.mp there
  have bound' : i < kept.length := same.length_eq ▸ bound
  refine ⟨kept[i], ?_, same.get bound bound'⟩
  rw [get?, all, List.getElem?_append_left bound', List.getElem?_eq_getElem bound']

/-- **Copies never clash.** Whatever augmenting adds behind the doclets that were there has a slot
that no other doclet has in the end. Those that were there stay where they are, with no more done to
them than to be described and noted as implementations. So members that were apart are apart. -/
theorem copies_apart (c : Collection) :
    let augmented := c.augment.1
    (∀ i copy, c.size ≤ i → augmented.get? i = some copy → copy.memberOf ≠ none ∧
      ∀ j other, augmented.get? j = some other → j ≠ i → other.slot ≠ copy.slot) ∧
    (∀ i own, c.get? i = some own → ∃ kept, augmented.get? i = some kept ∧ own.Enriches kept) ∧
    (c.MembersApart → augmented.MembersApart) := by
  intro augmented
  have steps : Steps c augmented := augment_steps c
  refine ⟨fun i copy behind there => ⟨?_, fun j other found differ same => ?_⟩,
    fun i own there => steps.stays there, steps.membersApart⟩
  · exact (steps.alone behind there there).1.1
  · exact differ ((steps.alone behind there found).2 same)

/-- A box that mixes in a lid and a cap, both of which shut: as a class it can have but one of the
two. -/
def lidded : Collection :=
  ofList [{ Doclet.named "box" .classType with mixes := ["lid", "cap"] },
    (Doclet.named "shut" .function).setMemberOf "lid" .static,
    (Doclet.named "shut" .function).setMemberOf "cap" .onInstance]

theorem copies_apart_lidded :
    lidded.MembersApart ∧ lidded.augment.1.MembersApart ∧
      lidded.augment.1.doclets.map (·.longname) = ["box", "lid.shut", "cap#shut", "box#shut"] := by
  have augmented : lidded.augment.1 = (lidded.addMixedIn.1).addImplemented.reindex := by
    show lidded.addMixedIn.1.addInherited.1.addImplemented.reindex = _
    rw [addInherited_of_none (by decide)]
  have apart : lidded.MembersApart := by decide
  refine ⟨apart, (copies_apart lidded).2.2 apart, ?_⟩
  rw [augmented]
  rfl

end Collection

end RefDoc
