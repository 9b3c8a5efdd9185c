import RefDoc.Proofs.Hierarchy.Inheriting

/-!
# What is mixed in

Declarations are followed in the order in which they were made, each of them once. A symbol gets
what its mixin has by then (`Collection.owned_foldl_mixIn`); what the mixin gets later, from mixins
of its own, does not reach it. So a member that is missing in the end has come to the mixin by a
later declaration, and mixing in is complete exactly if following all declarations once more adds
nothing (`Collection.mixing_complete_iff`).
-/

namespace RefDoc

/-- What a doclet declares to mix in. -/
def Doclet.mixings (d : Doclet) : List Mixing :=
  d.mixes.map fun mixin => ⟨d.longname, d.kind, mixin⟩

namespace Collection

variable {c c' : Collection} {d m : Doclet} {mixing : Mixing}

/-- The symbol has a member of the name of `m`, in the scope that a copy of `m` gets. -/
def Counterpart (c : Collection) (d m : Doclet) : Prop :=
  ∃ own ∈ c.doclets, own.memberOf = some d.longname ∧ own.name = m.name ∧
    own.scope = some (if d.kind = .classType then .onInstance else m.scope.getD .static)

instance (c : Collection) (d m : Doclet) : Decidable (c.Counterpart d m) :=
  inferInstanceAs (Decidable (∃ own ∈ c.doclets, _))

/-- Each of the doclets has a counterpart of all that its mixins share. -/
def MixedFully (c : Collection) (ds : List Doclet) : Prop :=
  ∀ d ∈ ds, ∀ mixin ∈ d.mixes, ∀ m ∈ c.doclets, m.memberOf = some mixin → m.scope ≠ some .inner →
    c.Counterpart d m

instance (c : Collection) (ds : List Doclet) : Decidable (c.MixedFully ds) :=
  inferInstanceAs (Decidable (∀ d ∈ ds, _))

/-- The doclet is the copy that the declaration makes of a member of its mixin. -/
def MixedInBy (c : Collection) (mixing : Mixing) (d : Doclet) : Prop :=
  ∃ source ∈ c.doclets, source.memberOf = some mixing.mixin ∧
    d = mixing.rule.copy mixing.target source

theorem counterpart_iff (declared : mixing ∈ d.mixings) :
    c.Counterpart d m ↔
      c.hasMember mixing.target m.name (some (mixing.rule.scope m)) = true := by
  obtain ⟨mixin, -, rfl⟩ := List.mem_map.mp declared
  exact hasMember_iff.symm

/-- A copy is its own counterpart: it has the scope that a copy of it would get. -/
theorem counterpart_copy (declared : mixing ∈ d.mixings)
    (there : mixing.rule.copy mixing.target m ∈ c.doclets) :
    c.Counterpart d (mixing.rule.copy mixing.target m) := by
  obtain ⟨memberOf, -, scope⟩ := CopyRule.member_copy (.mixing mixing) mixing.target m
  obtain ⟨mixin, -, rfl⟩ := List.mem_map.mp declared
  refine ⟨_, there, memberOf, rfl, ?_⟩
  rw [scope]
  by_cases onClass : d.kind = .classType <;> simp [Mixing.rule, onClass]

/-! ### Following declarations -/

theorem copies_mixIn (c : Collection) (mixing : Mixing) :
    Copies mixing.rule mixing.target (c.sharedMembers mixing.mixin) c (c.mixIn mixing) :=
  copies_foldl_addCopy (.mixing mixing) mixing.target (c.sharedMembers mixing.mixin) c

/-- All that is added are copies that the declarations make. -/
theorem added_foldl_mixIn (l : List Mixing) (c : Collection) :
    ∃ added, (l.foldl mixIn c).doclets = c.doclets ++ added ∧
      ∀ d ∈ added, ∃ mixing ∈ l, (l.foldl mixIn c).MixedInBy mixing d := by
  induction l generalizing c with
  | nil => exact ⟨[], (List.append_nil _).symm, fun _ h => absurd h List.not_mem_nil⟩
  | cons mixing rest ih =>
    obtain ⟨⟨first, all, copied⟩, -⟩ := copies_mixIn c mixing
    obtain ⟨others, all', copied'⟩ := ih (c.mixIn mixing)
    rw [List.foldl_cons]
    refine ⟨first ++ others, by rw [all', all, List.append_assoc],
      List.forall_mem_append.mpr ⟨fun d member => ?_, fun d member => ?_⟩⟩
    · obtain ⟨source, shared, copy, -⟩ := copied d member
      obtain ⟨there, own, -⟩ := mem_sharedMembers.mp shared
      refine ⟨mixing, List.mem_cons_self, source, ?_, own, copy⟩
      rw [all', all]
      exact List.mem_append_left _ (List.mem_append_left _ there)
    · obtain ⟨later, member', copy⟩ := copied' d member
      exact ⟨later, List.mem_cons_of_mem _ member', copy⟩

theorem addMixedIn_eq (c : Collection) : c.addMixedIn.1 = c.mixings.foldl mixIn c :=
  foldLogged_fst ..

theorem subset_foldl_mixIn (l : List Mixing) (c : Collection) :
    c.doclets ⊆ (l.foldl mixIn c).doclets := by
  obtain ⟨added, all, -⟩ := added_foldl_mixIn l c
  exact all ▸ List.subset_append_left ..

theorem sharedMembers_mono (sub : c.doclets ⊆ c'.doclets) (parent : String) :
    c.sharedMembers parent ⊆ c'.sharedMembers parent := fun m shared => by
  obtain ⟨there, own⟩ := mem_sharedMembers.mp shared
  exact mem_sharedMembers.mpr ⟨sub there, own⟩

/-- What the mixin shares at first reaches the target. -/
theorem owned_foldl_mixIn {l : List Mixing} (member : mixing ∈ l)
    (shared : m ∈ c.sharedMembers mixing.mixin) :
    (l.foldl mixIn c).hasMember mixing.target m.name (some (mixing.rule.scope m)) = true := by
  obtain ⟨first, rest, rfl⟩ := List.append_of_mem member
  have there := sharedMembers_mono (subset_foldl_mixIn first c) mixing.mixin shared
  rw [List.foldl_append, List.foldl_cons]
  exact hasMember_mono (subset_foldl_mixIn rest _) ((copies_mixIn _ mixing).owned m there)

/-- A member of the mixin is one that the target has too, or one that a later declaration made. -/
theorem owned_or_mixedIn (first rest : List Mixing) (mixing : Mixing) (c : Collection)
    (there : m ∈ ((first ++ mixing :: rest).foldl mixIn c).doclets)
    (own : m.memberOf = some mixing.mixin) (shared : m.scope ≠ some .inner) :
    ((first ++ mixing :: rest).foldl mixIn c).hasMember mixing.target m.name
        (some (mixing.rule.scope m)) = true ∨
      ∃ later ∈ mixing :: rest, ((first ++ mixing :: rest).foldl mixIn c).MixedInBy later m := by
  rw [List.foldl_append] at there ⊢
  generalize first.foldl mixIn c = c at there ⊢
  obtain ⟨added, appended, copied⟩ := added_foldl_mixIn (mixing :: rest) c
  rw [appended] at there
  rcases List.mem_append.mp there with found | new
  · exact .inl (owned_foldl_mixIn List.mem_cons_self (mem_sharedMembers.mpr ⟨found, own, shared⟩))
  · exact .inr (copied m new)

/-- What is declared behind a declaration is declared by the same doclet or by one behind it. -/
theorem mixings_split {before after : List Doclet} (split : c.doclets = before ++ d :: after)
    {mixin : String} (listed : mixin ∈ d.mixes) :
    ∃ first rest, c.mixings = first ++ ⟨d.longname, d.kind, mixin⟩ :: rest ∧
      ∀ later ∈ rest, later ∈ d.mixings ∨ ∃ late ∈ after, later ∈ late.mixings := by
  let declare (mixin : String) : Mixing := ⟨d.longname, d.kind, mixin⟩
  obtain ⟨sooner, later, mixes⟩ := List.append_of_mem listed
  have own : d.mixings = sooner.map declare ++ declare mixin :: later.map declare := by
    rw [Doclet.mixings, mixes, List.map_append, List.map_cons]
  refine ⟨before.flatMap Doclet.mixings ++ sooner.map declare,
    later.map declare ++ after.flatMap Doclet.mixings, ?_,
    List.forall_mem_append.mpr ⟨fun mixing here => .inl ?_, fun mixing behind => .inr ?_⟩⟩
  · show c.doclets.flatMap Doclet.mixings = _
    rw [split, List.flatMap_append, List.flatMap_cons, own]
    simp only [List.append_assoc, List.cons_append, declare]
  · rw [own]
    exact List.mem_append_right _ (List.mem_cons_of_mem _ here)
  · exact List.mem_flatMap.mp behind

/-- What is missing came late: to the mixin by a declaration that stands behind the doclet. -/
theorem counterpart_or_late {before after : List Doclet} (split : c.doclets = before ++ d :: after)
    {mixin : String} (listed : mixin ∈ d.mixes) (there : m ∈ c.addMixedIn.1.doclets)
    (own : m.memberOf = some mixin) (shared : m.scope ≠ some .inner) :
    c.addMixedIn.1.Counterpart d m ∨ ∃ late ∈ after, late.longname = mixin ∧
      ∃ mixing ∈ late.mixings, c.addMixedIn.1.MixedInBy mixing m := by
  have declared : ⟨d.longname, d.kind, mixin⟩ ∈ d.mixings := List.mem_map_of_mem listed
  obtain ⟨first, rest, all, behind⟩ := mixings_split split listed
  have stays := there
  rw [addMixedIn_eq, all] at there
  have settled := owned_or_mixedIn first rest _ c there own shared
  rw [← all, ← addMixedIn_eq] at settled
  rcases settled with owned | ⟨mixing, member, source, present, member', rfl⟩
  · exact .inl ((counterpart_iff declared).mpr owned)
  · have target : mixing.target = mixin :=
      Option.some.inj ((CopyRule.member_copy (.mixing mixing) _ source).1.symm.trans own)
    have mine_or_late : mixing ∈ d.mixings ∨ ∃ late ∈ after, mixing ∈ late.mixings := by
      rcases List.mem_cons.mp member with rfl | later
      · exact .inl declared
      · exact behind mixing later
    rcases mine_or_late with mine | ⟨late, last, made⟩
    · exact .inl (counterpart_copy mine stays)
    · obtain ⟨mixin', -, rfl⟩ := List.mem_map.mp made
      exact .inr ⟨late, last, target, _, made, source, present, member', rfl⟩

/-! ### Following them once more -/

theorem foldl_addCopy_owned {rule : CopyRule} {target : String} {ms : List Doclet}
    (owned : ∀ m ∈ ms, c.hasMember target m.name (some (rule.scope m)) = true) :
    ms.foldl (addCopy rule target) c = c := by
  induction ms with
  | nil => rfl
  | cons m rest ih =>
    obtain ⟨here, owned⟩ := List.forall_mem_cons.mp owned
    rw [List.foldl_cons, addCopy, if_pos here, ih owned]

/-- Following the declarations adds nothing exactly if each target has what it would get. -/
theorem foldl_mixIn_fixed_iff (l : List Mixing) (c : Collection) :
    (l.foldl mixIn c).doclets = c.doclets ↔
      ∀ mixing ∈ l, ∀ m ∈ c.sharedMembers mixing.mixin,
        c.hasMember mixing.target m.name (some (mixing.rule.scope m)) = true := by
  constructor
  · intro fixed mixing member m shared
    exact hasMember_mono (fixed ▸ List.Subset.refl _) (owned_foldl_mixIn member shared)
  · intro owned
    have unchanged : l.foldl mixIn c = c := by
      induction l with
      | nil => rfl
      | cons mixing rest ih =>
        obtain ⟨here, owned⟩ := List.forall_mem_cons.mp owned
        rw [List.foldl_cons, mixIn, copyMembers, foldl_addCopy_owned here, ih owned]
    rw [unchanged]

theorem mixedFully_iff {ds : List Doclet} :
    c.MixedFully ds ↔ ∀ mixing ∈ ds.flatMap Doclet.mixings, ∀ m ∈ c.sharedMembers mixing.mixin,
      c.hasMember mixing.target m.name (some (mixing.rule.scope m)) = true := by
  constructor
  · intro full mixing member m shared
    obtain ⟨d, present, declared⟩ := List.mem_flatMap.mp member
    obtain ⟨there, own, outer⟩ := mem_sharedMembers.mp shared
    rw [← counterpart_iff declared]
    obtain ⟨mixin, listed, rfl⟩ := List.mem_map.mp declared
    exact full d present mixin listed m there own outer
  · intro owned d present mixin listed m there own outer
    have declared : ⟨d.longname, d.kind, mixin⟩ ∈ d.mixings := List.mem_map_of_mem listed
    rw [counterpart_iff declared]
    exact owned _ (List.mem_flatMap_of_mem present declared) m
      (mem_sharedMembers.mpr ⟨there, own, outer⟩)

/-- **When mixing in is complete.** If a member of a mixin has no counterpart with who mixes it in,
the mixin has it from a mixin of its own, by a declaration of a doclet that stands behind. And all
have all exactly if following the declarations once more adds nothing. -/
theorem mixing_complete_iff (c : Collection) :
    let mixed := c.addMixedIn.1
    (∀ before d after, c.doclets = before ++ d :: after → ∀ mixin ∈ d.mixes,
      ∀ m ∈ mixed.doclets, m.memberOf = some mixin → m.scope ≠ some .inner →
        mixed.Counterpart d m ∨ ∃ late ∈ after, late.longname = mixin ∧
          ∃ mixing ∈ late.mixings, mixed.MixedInBy mixing m) ∧
    (mixed.MixedFully c.doclets ↔ (c.mixings.foldl mixIn mixed).doclets = mixed.doclets) := by
  intro mixed
  refine ⟨fun before d after split mixin listed m there own shared =>
    counterpart_or_late split listed there own shared, ?_⟩
  rw [foldl_mixIn_fixed_iff]
  exact mixedFully_iff

/-- A square mixes in what has a color, and that what has a label. -/
def square : Doclet := { Doclet.named "Square" .classType with mixes := ["Colorful"] }

def colorful : Doclet := { Doclet.named "Colorful" .mixin with mixes := ["Labelled"] }

def label : Doclet := (Doclet.named "label" .function).setMemberOf "Labelled" .static

/-- In front, the square is served before the color has got the label. -/
def squareFirst : Collection := ofList [square, colorful, label]

theorem mixing_incomplete_front : ¬ squareFirst.addMixedIn.1.MixedFully squareFirst.doclets := by
  decide

/-- At the end, the square gets the label too. -/
def squareLast : Collection := ofList [label, colorful, square]

/-- The label of the color. -/
def passed : Doclet := { label.setMemberOf "Colorful" .static with mixed := true }

theorem mixing_complete_iff_last :
    passed ∈ squareLast.addMixedIn.1.doclets ∧
      squareLast.addMixedIn.1.Counterpart square passed ∧
      squareLast.addMixedIn.1.MixedFully squareLast.doclets := by
  have there : passed ∈ squareLast.addMixedIn.1.doclets := by decide
  have complete := mixing_complete_iff squareLast
  refine ⟨there, ?_, complete.2.mpr (by decide)⟩
  rcases complete.1 [label, colorful] square [] rfl "Colorful" List.mem_cons_self passed there rfl
    (by decide) with own | ⟨late, behind, -⟩
  · exact own
  · exact absurd behind List.not_mem_nil

end Collection

end RefDoc
