import RefDoc.Proofs.Circle
import RefDoc.Proofs.Tutorial.Nesting

/-!
# Tutorials that are moved to the top

The first pass reaches the tutorials that no circle is above (`Tutorials.placed_iff`). Those it
leaves out are attached by name, each with all that is below it, so that one of them comes to the
top if no tutorial above it has an earlier name (`Tutorials.Attaches.mem_strays_iff`). A tutorial
that merely is below a circle may be the first of those, and loses its place then
(`TutorialShelf.resolved_uprooted`).
-/

namespace RefDoc

open Relation TutorialTree

namespace TutorialTree

variable {P : String → Prop}

mutual

theorem forall_names : ∀ t : TutorialTree, P t.name →
    (∀ parent child, (parent, child) ∈ t.links → P parent → P child) → ∀ name ∈ t.names, P name
  | ⟨name, title, content, children⟩, top, down => by
    rw [names]
    refine List.forall_mem_cons.mpr ⟨top, forall_namesAmong children (fun t member => ?_)
      fun parent child link => down parent child (List.mem_append_right _ link)⟩
    exact down name t.name (List.mem_append_left _ (List.mem_map_of_mem member)) top

theorem forall_namesAmong : ∀ l : List TutorialTree, (∀ t ∈ l, P t.name) →
    (∀ parent child, (parent, child) ∈ linksAmong l → P parent → P child) →
    ∀ name ∈ namesAmong l, P name
  | [], _, _ => nofun
  | t :: rest, tops, down => by
    obtain ⟨top, tops⟩ := List.forall_mem_cons.mp tops
    rw [namesAmong]
    exact List.forall_mem_append.mpr
      ⟨forall_names t top fun parent child link => down parent child (List.mem_append_left _ link),
        forall_namesAmong rest tops fun parent child link =>
          down parent child (List.mem_append_right _ link)⟩

end

end TutorialTree

/-- By a relation from parents to children, somebody above the name is above itself. -/
def BelowCircle (parent : String → String → Prop) (name : String) : Prop :=
  ∃ above, TransGen parent above name ∧ TransGen parent above above

/-- The name is below a circle, and nobody above it comes before it. -/
structure Uprooted (parent : String → String → Prop) (name : String) : Prop where
  circle : BelowCircle parent name
  first : ∀ above, TransGen parent above name → name ≤ above

namespace Tutorials

variable {ts : Tutorials} {parent child : String} {placed placed' names strays : List String}
  {trees : List TutorialTree}

theorem IsParent.parent_known (own : ts.IsParent parent child) : parent ∈ ts.keys := by
  obtain ⟨t, found, -⟩ := own.lists
  exact Table.mem_keys_of_get? found

/-- Whoever is above a child is its parent or above that. -/
theorem IsParent.above {name : String} (own : ts.IsParent parent child)
    (above : TransGen ts.IsParent name child) :
    name = parent ∨ TransGen ts.IsParent name parent := by
  obtain ⟨other, above, own'⟩ := TransGen.tail'_iff.mp above
  obtain rfl := own.unique own'
  exact (reflTransGen_iff_eq_or_transGen.mp above).imp_left Eq.symm

/-- The children of whoever is placed are placed. -/
def PlacedBelow (ts : Tutorials) (placed : List String) : Prop :=
  ∀ parent child, ts.IsParent parent child → parent ∈ placed → child ∈ placed

theorem PlacedBelow.of_leads {name : String} (closed : ts.PlacedBelow placed)
    (there : parent ∈ placed) (leads : ReflTransGen ts.IsParent parent name) : name ∈ placed := by
  induction leads with
  | refl => exact there
  | tail _ own ih => exact closed _ _ own ih

theorem Grows.placedBelow (h : Grows ts ts.parents.1 placed names trees placed')
    (closed : ts.PlacedBelow placed) : ts.PlacedBelow placed' := by
  intro parent child own there
  rcases h.mem_placed.mp there with before | here
  · exact h.mem_placed.mpr (.inl (closed parent child own before))
  · exact h.closed (get?_parents_eq_some_iff.mpr own) own.lists here

theorem Grows.leads_names (h : Grows ts ts.parents.1 placed names trees placed') :
    ∀ name ∈ namesAmong trees, ∃ root ∈ names, ReflTransGen ts.IsParent root name := by
  refine forall_namesAmong trees (fun t member => ?_) fun parent child link => ?_
  · exact ⟨t.name, h.roots ▸ List.mem_map_of_mem member, .refl⟩
  · rintro ⟨root, there, leads⟩
    exact ⟨root, there, leads.tail (get?_parents_eq_some_iff.mp (h.parent_of_link link))⟩

/-- **The first pass** reaches those that no circle is above. -/
theorem placed_iff (h : Grows ts ts.parents.1 [] ts.free trees placed) (known : child ∈ ts.keys) :
    child ∈ placed ↔ ¬ BelowCircle ts.IsParent child := by
  have inTrees {name : String} (there : name ∈ placed) : name ∈ namesAmong trees :=
    (h.mem_placed.mp there).resolve_left List.not_mem_nil
  constructor
  · intro there
    refine forall_namesAmong (P := fun child => ¬ BelowCircle ts.IsParent child) trees
      (fun t member => ?_) (fun parent child link fine => ?_) child (inTrees there)
    · have free : t.name ∈ ts.free := h.roots ▸ List.mem_map_of_mem member
      rintro ⟨name, above, -⟩
      obtain ⟨parent, -, own⟩ := TransGen.tail'_iff.mp above
      cases (mem_free.mp free).2.symm.trans (get?_parents_eq_some_iff.mpr own)
    · rintro ⟨name, above, circle⟩
      have own := get?_parents_eq_some_iff.mp (h.parent_of_link link)
      rcases own.above above with rfl | above
      · exact fine ⟨name, circle, circle⟩
      · exact fine ⟨name, above, circle⟩
  · intro fine
    by_contra missing
    have next : ∀ child ∈ ts.keys.filter (· ∉ placed),
        ∃ parent ∈ ts.keys.filter (· ∉ placed), ts.IsParent parent child := by
      intro child left
      obtain ⟨known, missing⟩ := List.mem_filter.mp left
      have missing := of_decide_eq_true missing
      cases own : ts.parents.1.get? child with
      | none => exact absurd (h.placed_of_mem_roots (mem_free.mpr ⟨known, own⟩)) missing
      | some parent =>
        have isParent := get?_parents_eq_some_iff.mp own
        have parent_missing : parent ∉ placed := fun there =>
          missing (h.closed own isParent.lists (inTrees there))
        exact ⟨parent,
          List.mem_filter.mpr ⟨isParent.parent_known, decide_eq_true parent_missing⟩, isParent⟩
    obtain ⟨name, -, below, circle⟩ := exists_circle (r := fun child parent => ts.IsParent parent child)
      next (List.mem_filter.mpr ⟨known, decide_eq_true missing⟩)
    have circle : TransGen ts.IsParent name name := transGen_swap.mp circle
    exact fine ⟨name, circle.trans_left (reflTransGen_swap.mp below), circle⟩

/-- **The second pass** attaches, of those that are not placed, the ones that come before all that
are above them. -/
theorem Attaches.mem_strays_iff (h : Attaches ts ts.parents.1 placed names strays trees placed')
    (sorted : names.Pairwise (· < ·)) (others : ∀ name ∈ ts.keys, name ∉ names → name ∈ placed)
    (closed : ts.PlacedBelow placed) (member : child ∈ names) :
    child ∈ strays ↔
      child ∉ placed ∧ ∀ name, TransGen ts.IsParent name child → child ≤ name := by
  have above_known {name child : String} (above : TransGen ts.IsParent name child) :
      name ∈ ts.keys := by
    obtain ⟨_, own, -⟩ := TransGen.head'_iff.mp above
    exact own.parent_known
  induction h with
  | nil => cases member
  | @placed placed _ names strays name _ there attaches ih =>
    obtain ⟨-, sorted⟩ := List.pairwise_cons.mp sorted
    rcases List.mem_cons.mp member with rfl | member
    · exact ⟨fun stray => absurd there (attaches.not_placed stray), fun h => absurd there h.1⟩
    · refine ih sorted (fun other known later => ?_) closed member
      by_cases same : other = name
      · exact same ▸ there
      · exact others other known (List.not_mem_cons_of_ne_of_not_mem same later)
  | @stray placed placed₁ _ names strays name tree _ fresh grown attaches ih =>
    obtain ⟨first, sorted⟩ := List.pairwise_cons.mp sorted
    have there : name ∈ placed₁ := grown.placed_of_mem_roots List.mem_cons_self
    rcases List.mem_cons.mp member with rfl | member
    · refine ⟨fun _ => ⟨fresh, fun above leads => ?_⟩, fun _ => List.mem_cons_self⟩
      by_cases later : above ∈ child :: names
      · rcases List.mem_cons.mp later with rfl | later
        · exact String.le_refl _
        · exact Std.le_of_lt (first above later)
      · have before := others above (above_known leads) later
        exact absurd (closed.of_leads before leads.to_reflTransGen) fresh
    · have later := first child member
      have differs : child ≠ name := fun same => String.lt_irrefl _ (same ▸ later)
      have closed' := grown.placedBelow closed
      have others' : ∀ other ∈ ts.keys, other ∉ names → other ∈ placed₁ := by
        intro other known notLater
        by_cases same : other = name
        · exact same ▸ there
        · have before := others other known (List.not_mem_cons_of_ne_of_not_mem same notLater)
          exact grown.mem_placed.mpr (.inl before)
      refine (List.mem_cons.trans (or_iff_right differs)).trans
        ((ih sorted others' closed' member).trans ?_)
      refine and_congr_left fun earliest => not_congr ⟨fun placed => ?_, fun placed => ?_⟩
      · refine (grown.mem_placed.mp placed).resolve_right fun inTree => ?_
        obtain ⟨root, only, leads⟩ := grown.leads_names child inTree
        obtain rfl := List.mem_singleton.mp only
        have above := (reflTransGen_iff_eq_or_transGen.mp leads).resolve_left differs
        exact String.not_lt.mpr (earliest _ above) later
      · exact grown.mem_placed.mpr (.inl placed)

namespace Nests

/-- Who has a parent is moved to the top just if it is uprooted. -/
theorem mem_roots_iff (h : ts.Nests trees) (own : ts.IsParent parent child) :
    child ∈ trees.map (·.name) ↔ Uprooted ts.IsParent child := by
  obtain @⟨placed, placed', strays, trees, others, grows, attaches⟩ := h
  have claimed : child ∉ ts.free := fun free => by
    cases (mem_free.mp free).2.symm.trans (get?_parents_eq_some_iff.mpr own)
  rw [(grows.append attaches.grows).roots, List.mem_append, or_iff_right claimed,
    attaches.mem_strays_iff ts.pairwise_keys (fun name known absent => absurd known absent)
      (grows.placedBelow fun _ _ _ there => nomatch there) own.known,
    placed_iff grows own.known, not_not]
  exact ⟨fun ⟨circle, first⟩ => ⟨circle, first⟩, fun ⟨circle, first⟩ => ⟨circle, first⟩⟩

theorem linked_iff (h : ts.Nests trees) (own : ts.IsParent parent child) :
    (parent, child) ∈ linksAmong trees ↔ child ∉ trees.map (·.name) := by
  refine ⟨fun link root => h.root_unlinked root link, fun notRoot => ?_⟩
  obtain ⟨other, link⟩ := (mem_namesAmong_iff.mp (h.mem_names.mpr own.known)).resolve_left notRoot
  rwa [own.unique (h.isParent_of_link link)]

end Nests

end Tutorials

namespace TutorialShelf

/-- **Who keeps its place.** A tutorial with a parent is at the top if it is on or below a circle
and no tutorial above it comes before it by name; otherwise it is below its parent. -/
theorem resolved_uprooted (s : TutorialShelf) {parent child : String}
    (own : s.IsParent parent child) :
    let trees := s.resolved.1.tree.children
    (child ∈ trees.map (·.name) ↔ Uprooted s.IsParent child) ∧
      ((parent, child) ∈ linksAmong trees ↔ ¬ Uprooted s.IsParent child) := by
  intro trees
  have nests : Tutorials.Nests s.resolved.1.tutorials trees := s.nests_resolved
  have same : Tutorials.IsParent s.resolved.1.tutorials = s.IsParent :=
    funext₂ fun _ _ => propext isParent_resolved
  have own' := isParent_resolved.mpr own
  have roots := nests.mem_roots_iff own'
  rw [same] at roots
  exact ⟨roots, (nests.linked_iff own').trans (not_congr roots)⟩

/-- Three tutorials: by their settings two list each other, and one of these the third. -/
def circling : TutorialShelf :=
  { tutorials := .ofList [("a", { title := "a", content := "A" }),
      ("b", { title := "b", content := "B" }), ("c", { title := "c", content := "C" })]
    pending := [("b", { named := ["a", "c"] }), ("c", { named := ["b"] })] }

theorem lists_circling {parent child : String} :
    circling.Lists parent child ↔
      (parent = "b" ∧ (child = "a" ∨ child = "c")) ∨ (parent = "c" ∧ child = "b") := by
  have all : Tutorials.claims circling.resolved.1.tutorials =
      [("b", "a"), ("b", "c"), ("c", "b")] := rfl
  rw [← lists_resolved, ← Tutorials.mem_claims, all]
  simp only [List.mem_cons, Prod.mk.injEq, List.not_mem_nil, or_false]
  tauto

theorem isParent_circling {parent child : String} (lists : circling.Lists parent child) :
    circling.IsParent parent child := by
  refine ⟨?_, lists, fun other lists' => ?_⟩
  · have known : circling.tutorials.keys = ["a", "b", "c"] := rfl
    rcases lists_circling.mp lists with ⟨-, rfl | rfl⟩ | ⟨-, rfl⟩ <;> simp [known]
  · have only : other = parent := by
      rw [lists_circling] at lists lists'
      aesop
    exact only ▸ Std.le_refl _

/-- `c` keeps its place below `b`, which comes before it. -/
theorem resolved_uprooted_circling :
    circling.IsParent "b" "c" ∧ ("b", "c") ∈ linksAmong circling.resolved.1.tree.children := by
  have own : circling.IsParent "b" "c" :=
    isParent_circling (lists_circling.mpr (.inl ⟨rfl, .inr rfl⟩))
  refine ⟨own, (resolved_uprooted circling own).2.mpr fun uprooted => ?_⟩
  exact absurd (uprooted.first "b" (.single own)) (by decide)

theorem linksAmong_circling : linksAmong circling.resolved.1.tree.children = [("b", "c")] := by
  let ts : Tutorials := circling.resolved.1.tutorials
  obtain ⟨a, known_a, of_a⟩ : ∃ a, ts.get? "a" = some a ∧ a.children = [] := ⟨_, rfl, rfl⟩
  obtain ⟨b, known_b, of_b⟩ : ∃ b, ts.get? "b" = some b ∧ b.children = ["a", "c"] := ⟨_, rfl, rfl⟩
  obtain ⟨c, known_c, of_c⟩ : ∃ c, ts.get? "c" = some c ∧ c.children = ["b"] := ⟨_, rfl, rfl⟩
  have keys : ts.keys = ["a", "b", "c"] := rfl
  have above_a : ts.parents.1.get? "a" = some "b" := rfl
  have above_b : ts.parents.1.get? "b" = some "c" := rfl
  have above_c : ts.parents.1.get? "c" = some "b" := rfl
  show linksAmong ts.tree.1.children = _
  simp [Tutorials.tree, Tutorials.attach, Tutorials.growAll, Tutorials.grow_of_fresh known_a,
    Tutorials.grow_of_fresh known_b, Tutorials.grow_of_fresh known_c, of_a, of_b, of_c, keys,
    above_a, above_b, above_c, TutorialTree.root, linksAmong, links]

/-- `a` is on no circle, but is moved to the top. -/
theorem uprooted_circling :
    ¬ ∀ (s : TutorialShelf) parent child, s.IsParent parent child →
      ¬ TransGen s.IsParent child child →
      (parent, child) ∈ linksAmong s.resolved.1.tree.children := by
  intro keeps
  have own : circling.IsParent "b" "a" :=
    isParent_circling (lists_circling.mpr (.inl ⟨rfl, .inl rfl⟩))
  have childless : ¬ TransGen circling.IsParent "a" "a" := by
    intro circle
    obtain ⟨child, own, -⟩ := TransGen.head'_iff.mp circle
    simpa using lists_circling.mp own.lists
  have link := keeps circling "b" "a" own childless
  rw [linksAmong_circling] at link
  simp at link

end TutorialShelf

end RefDoc
