import RefDoc.Comment.Tags
import RefDoc.Proofs.Text.Words

/-!
# Comments without a doclet

A comment makes no doclet exactly if nothing names its symbol, or the last tag that has a say is a
`@name` with nothing behind it (`doclet_dropped_iff`): such a tag takes away the name that an
earlier tag or the code gave, while a kind with nothing behind it does not.
-/

namespace RefDoc.Comment

open Text

/-- The tag gives a name: `@name` or a kind, with something behind it. -/
def Names (tag : RawTag) : Prop :=
  (String.ofList tag.1 = "name" ∨ (Kind.ofTag? (String.ofList tag.1)).isSome) ∧
    ∃ c ∈ tag.2, isBlank c = false

/-- The tag takes a name away: `@name` with nothing behind it. -/
def Unnames (tag : RawTag) : Prop := String.ofList tag.1 = "name" ∧ ∀ c ∈ tag.2, isBlank c

/-- A name is taken away and not given again. -/
def Forgotten (tags : List RawTag) : Prop :=
  ∃ front tag back, tags = front ++ tag :: back ∧ Unnames tag ∧ ∀ t ∈ back, ¬ Names t

/-- Neither the code nor a tag gives a name. -/
structure Nameless (tags : List RawTag) (next : Option (List Char)) : Prop where
  code : (next.bind fun line => (hintFromCode line).name) = none
  tags : ∀ t ∈ tags, ¬ Names t

/-! ### One tag -/

section Tag

variable {d : Draft} {tag : RawTag}

theorem name_apply (d : Draft) (tag : RawTag) :
    (d.apply tag).name =
      if String.ofList tag.1 = "name" then (firstWord? tag.2).map String.ofList
      else if (Kind.ofTag? (String.ofList tag.1)).isSome then
        ((firstWord? tag.2).map String.ofList).or d.name
      else d.name := by
  unfold Draft.apply
  generalize String.ofList tag.1 = title
  by_cases named : title = "name"
  · subst named
    rfl
  · rw [if_neg named]
    dsimp only
    split
    case h_1 => exact absurd rfl named
    case h_20 => cases Kind.ofTag? title <;> rfl
    all_goals rfl

theorem Names.apply (names : Names tag) : (d.apply tag).name ≠ none := by
  obtain ⟨titled, word⟩ := names
  obtain ⟨word, found⟩ := Option.isSome_iff_exists.mp (firstWord?_isSome_iff.mpr word)
  rw [name_apply, found]
  by_cases name : String.ofList tag.1 = "name"
  · simp [name]
  · simp [name, titled.resolve_left name]

theorem Unnames.apply (unnames : Unnames tag) : (d.apply tag).name = none := by
  rw [name_apply, if_pos unnames.1, firstWord?_eq_none_iff.mpr unnames.2, Option.map_none]

theorem name_apply_other (names : ¬ Names tag) (unnames : ¬ Unnames tag) :
    (d.apply tag).name = d.name := by
  rw [name_apply]
  by_cases word : ∃ c ∈ tag.2, isBlank c = false
  · have untitled := not_or.mp fun titled => names ⟨titled, word⟩
    rw [if_neg untitled.1, if_neg untitled.2]
  · have blank : ∀ c ∈ tag.2, isBlank c := by simpa using word
    rw [if_neg fun name => unnames ⟨name, blank⟩, firstWord?_eq_none_iff.mpr blank]
    split <;> rfl

end Tag

/-! ### All tags -/

theorem not_forgotten_nil : ¬ Forgotten [] := by
  rintro ⟨front, tag, back, split, -⟩
  cases front <;> cases split

theorem forgotten_cons {tag : RawTag} {tags : List RawTag} :
    Forgotten (tag :: tags) ↔ Forgotten tags ∨ Unnames tag ∧ ∀ t ∈ tags, ¬ Names t := by
  constructor
  · rintro ⟨front, last, back, split, unnames, after⟩
    cases front with
    | nil =>
      obtain ⟨rfl, rfl⟩ := List.cons.inj split
      exact .inr ⟨unnames, after⟩
    | cons first front =>
      obtain ⟨-, rfl⟩ := List.cons.inj split
      exact .inl ⟨front, last, back, rfl, unnames, after⟩
  · rintro (⟨front, last, back, rfl, unnames, after⟩ | ⟨unnames, after⟩)
    · exact ⟨tag :: front, last, back, rfl, unnames, after⟩
    · exact ⟨[], tag, tags, rfl, unnames, after⟩

/-- By induction on the tags, which are read in order. -/
theorem name_foldl_eq_none_iff (tags : List RawTag) (d : Draft) :
    (tags.foldl Draft.apply d).name = none ↔
      Forgotten tags ∨ d.name = none ∧ ∀ t ∈ tags, ¬ Names t := by
  induction tags generalizing d with
  | nil => simp [not_forgotten_nil]
  | cons tag tags ih =>
    rw [List.foldl_cons, ih, List.forall_mem_cons, forgotten_cons, or_assoc]
    refine or_congr_right ?_
    by_cases names : Names tag
    · have given := names.apply (d := d)
      have kept : ¬ Unnames tag := fun unnames => given unnames.apply
      simp [names, given, kept]
    · by_cases unnames : Unnames tag
      · simp [names, unnames, unnames.apply]
      · simp [names, unnames, name_apply_other names unnames]

/-- **A comment makes no doclet** exactly if the last of the tags that give or take a name takes it,
or neither a tag nor the code gives one. -/
theorem doclet_dropped_iff (comment : List Char) (next : Option (List Char)) :
    docletOf? comment next = none ↔
      Forgotten (sections comment).tags ∨ Nameless (sections comment).tags next := by
  have hint : (Draft.ofHint ((next.map hintFromCode).getD {})).name =
      next.bind fun line => (hintFromCode line).name := by
    cases next <;> rfl
  rw [docletOf?, Option.map_eq_none_iff, name_foldl_eq_none_iff, hint]
  exact or_congr_right
    ⟨fun ⟨code, tags⟩ => ⟨code, tags⟩, fun nameless => ⟨nameless.code, nameless.tags⟩⟩

/-- A `@name` with nothing behind it, on a class that has one in the code. -/
theorem named_class_dropped :
    ¬ (docletOf? "@name".toList (some "class A".toList) = none →
      Nameless (sections "@name".toList).tags (some "class A".toList)) := by
  intro dropped
  have nameless := dropped (by decide +kernel)
  have named : (hintFromCode "class A".toList).name = some "A" := by decide +kernel
  exact absurd (nameless.code.symm.trans named) nofun

end RefDoc.Comment
