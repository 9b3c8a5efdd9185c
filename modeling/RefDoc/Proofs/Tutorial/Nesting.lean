import Mathlib.Data.Set.Finite.List
import Mathlib.Order.WellFoundedSet
import RefDoc.Proofs.Tutorial.Growth

/-!
# How tutorials are nested

The trees below the root come from two passes: the tutorials without a parent are grown, then those
that this leaves out are attached (`Tutorials.Nests`). All tutorials are in them, each below its
parent or at the top (`TutorialShelf.resolved_nesting`). A tutorial that is below another is there
as often as that one lists it, so that names are repeated only where a list repeats one
(`TutorialShelf.resolved_nodup_iff`).
-/

namespace RefDoc

open TutorialTree

namespace Tutorials

/-- The tutorials without a parent, by name. -/
def free (ts : Tutorials) : List String :=
  ts.keys.filter fun name => (ts.parents.1.get? name).isNone

/-- The trees below the root: one for every tutorial without a parent, then one for each of those
that are left out by them. -/
inductive Nests (ts : Tutorials) : List TutorialTree → Prop
  | intro {placed placed' strays : List String} {trees others : List TutorialTree} :
      Grows ts ts.parents.1 [] ts.free trees placed →
      Attaches ts ts.parents.1 placed ts.keys strays others placed' →
      Nests ts (trees ++ others)

variable {ts : Tutorials} {trees : List TutorialTree}

theorem mem_free {name : String} :
    name ∈ ts.free ↔ name ∈ ts.keys ∧ ts.parents.1.get? name = none := by
  rw [free, List.mem_filter, Option.isNone_iff_eq_none]

theorem parents_known (ts : Tutorials) (child parent : String)
    (own : ts.parents.1.get? child = some parent) : child ∈ ts.keys :=
  (get?_parents_eq_some_iff.mp own).known

theorem nests_tree (ts : Tutorials) : ts.Nests ts.tree.1.children := by
  have grows : Grows ts ts.parents.1 [] ts.free (ts.growAll ts.parents.1 [] [] ts.free).1
      (ts.growAll ts.parents.1 [] [] ts.free).2 :=
    grows_growAll (parents_known ts) (fun _ member => nomatch member)
      (fun name member => ⟨(List.mem_filter.mp member).1, List.not_mem_nil⟩)
  obtain ⟨strays, placed', attaches⟩ :=
    attaches_attach (parents_known ts) (fun _ member => member)
      (ts.growAll ts.parents.1 [] [] ts.free).2
  exact .intro grows attaches

/-- Parents before their children, as long as no tutorial is above itself. -/
theorem IsParent.induction {P : String → Prop} {name : String}
    (acyclic : ∀ name, ¬ Relation.TransGen ts.IsParent name name)
    (step : ∀ child ∈ ts.keys, (∀ parent, ts.IsParent parent child → P parent) → P child)
    (known : name ∈ ts.keys) : P name := by
  have order : IsStrictOrder String (Relation.TransGen ts.IsParent) :=
    { irrefl := acyclic, trans := fun _ _ _ => .trans }
  have founded : {name | name ∈ ts.keys}.WellFoundedOn (Relation.TransGen ts.IsParent) :=
    (List.finite_toSet ts.keys).wellFoundedOn
  refine founded.induction known fun child there ih => step child there fun parent own => ?_
  obtain ⟨t, found, -⟩ := own.lists
  exact ih parent (Table.mem_keys_of_get? found) (.single own)

namespace Nests

theorem mem_names {name : String} (h : ts.Nests trees) :
    name ∈ namesAmong trees ↔ name ∈ ts.keys := by
  obtain ⟨grows, attaches⟩ := h
  have whole := grows.append attaches.grows
  refine ⟨whole.known, fun there => ?_⟩
  exact (whole.mem_placed.mp (attaches.placed_of_mem there)).resolve_left List.not_mem_nil

theorem isParent_of_link {parent child : String} (h : ts.Nests trees)
    (link : (parent, child) ∈ linksAmong trees) : ts.IsParent parent child := by
  obtain ⟨grows, attaches⟩ := h
  exact get?_parents_eq_some_iff.mp ((grows.append attaches.grows).parent_of_link link)

theorem roots_nodup (h : ts.Nests trees) : (trees.map (·.name)).Nodup := by
  obtain ⟨grows, attaches⟩ := h
  rw [(grows.append attaches.grows).roots, List.nodup_append]
  refine ⟨ts.nodup_keys.filter _, attaches.strays_sublist.nodup ts.nodup_keys, ?_⟩
  rintro name free _ stray rfl
  exact attaches.not_placed stray (grows.placed_of_mem_roots free)

/-- What is at the top is below nothing. -/
theorem root_unlinked {parent name : String} (h : ts.Nests trees)
    (root : name ∈ trees.map (·.name)) : (parent, name) ∉ linksAmong trees := by
  intro link
  have own := get?_parents_eq_some_iff.mpr (h.isParent_of_link link)
  obtain ⟨grows, attaches⟩ := h
  rw [(grows.append attaches.grows).roots, List.mem_append] at root
  rcases root with free | stray
  · cases (mem_free.mp free).2.symm.trans own
  · rw [linksAmong_append, List.mem_append] at link
    rcases link with first | later
    · have below := grows.mem_placed.mpr (.inr (mem_namesAmong_iff.mpr (.inr ⟨_, first⟩)))
      exact attaches.not_placed stray below
    · exact attaches.unlinked stray later

/-! ### Repeated names -/

theorem count_root {name : String} (h : ts.Nests trees) (root : name ∈ trees.map (·.name)) :
    (namesAmong trees).count name = 1 := by
  rw [count_namesAmong, count_links_eq_zero fun _ => h.root_unlinked root,
    List.count_eq_one_of_mem h.roots_nodup root]

/-- A tutorial that is below another is in the trees as often as that one lists it. -/
theorem count_of_link {parent child : String} {t : Tutorial} (h : ts.Nests trees)
    (link : (parent, child) ∈ linksAmong trees) (found : ts.get? parent = some t) :
    (namesAmong trees).count child = t.children.count child := by
  have own := h.isParent_of_link link
  have notRoot : child ∉ trees.map (·.name) := fun root => h.root_unlinked root link
  have listed : child ∈ t.children := by
    obtain ⟨t', found', listed⟩ := own.lists
    rwa [Option.some.inj (found.symm.trans found')]
  rw [count_namesAmong, List.count_eq_zero.mpr notRoot, Nat.zero_add]
  obtain ⟨grows, attaches⟩ := h
  have whole := grows.append attaches.grows
  rw [whole.count_links (get?_parents_eq_some_iff.mpr own) found listed List.not_mem_nil
    List.not_mem_nil (whole.roots ▸ notRoot)]
  exact if_pos (attaches.placed_of_mem (Table.mem_keys_of_get? found))

theorem names_nodup_iff (h : ts.Nests trees) :
    (namesAmong trees).Nodup ↔
      ∀ parent child t, (parent, child) ∈ linksAmong trees → ts.get? parent = some t →
        t.children.count child = 1 := by
  constructor
  · intro nodup parent child t link found
    rw [← h.count_of_link link found]
    exact List.count_eq_one_of_mem nodup (mem_namesAmong_iff.mpr (.inr ⟨_, link⟩))
  · intro once
    refine List.nodup_iff_count_le_one.mpr fun name => ?_
    by_cases member : name ∈ namesAmong trees
    · rcases mem_namesAmong_iff.mp member with root | ⟨parent, link⟩
      · exact (h.count_root root).le
      · obtain ⟨t, found, -⟩ := (h.isParent_of_link link).lists
        exact (h.count_of_link link found).trans (once _ _ _ link found) |>.le
    · rw [List.count_eq_zero.mpr member]
      exact Nat.zero_le _

/-! ### Without circles -/

/-- Without a circle the first pass leaves nothing out. -/
theorem roots_of_acyclic (h : ts.Nests trees)
    (acyclic : ∀ name, ¬ Relation.TransGen ts.IsParent name name) :
    trees.map (·.name) = ts.free := by
  obtain @⟨placed, placed', strays, trees, others, grows, attaches⟩ := h
  have all_placed {name : String} (known : name ∈ ts.keys) : name ∈ placed := by
    refine IsParent.induction (P := (· ∈ placed)) acyclic (fun child there above => ?_) known
    cases own : ts.parents.1.get? child with
    | none => exact grows.placed_of_mem_roots (mem_free.mpr ⟨there, own⟩)
    | some parent =>
      have isParent := get?_parents_eq_some_iff.mp own
      have inTrees := (grows.mem_placed.mp (above parent isParent)).resolve_left List.not_mem_nil
      exact grows.closed own isParent.lists inTrees
  have none_left (name : String) : name ∉ strays := fun stray =>
    attaches.not_placed stray (all_placed (attaches.strays_sublist.subset stray))
  rw [(grows.append attaches.grows).roots, List.eq_nil_iff_forall_not_mem.mpr none_left,
    List.append_nil]

theorem link_of_isParent {parent child : String} (h : ts.Nests trees)
    (acyclic : ∀ name, ¬ Relation.TransGen ts.IsParent name name)
    (own : ts.IsParent parent child) : (parent, child) ∈ linksAmong trees := by
  rcases mem_namesAmong_iff.mp (h.mem_names.mpr own.known) with root | ⟨other, link⟩
  · rw [h.roots_of_acyclic acyclic] at root
    cases (mem_free.mp root).2.symm.trans (get?_parents_eq_some_iff.mpr own)
  · rwa [own.unique (h.isParent_of_link link)]

end Nests

end Tutorials

namespace TutorialShelf

variable {s : TutorialShelf} {parent child : String}

/-- A tutorial of the shelf lists the child, or the settings that wait declare that it does. -/
def Lists (s : TutorialShelf) (parent child : String) : Prop :=
  Tutorials.Lists s.tutorials parent child ∨
    TutorialSettings.Declares (· ∈ s.tutorials.keys) s.pending parent child

/-- The tutorial that is to have the child below it: the first by name of those that list it. -/
structure IsParent (s : TutorialShelf) (parent child : String) : Prop where
  loaded : child ∈ s.tutorials.keys
  lists : s.Lists parent child
  first : ∀ other, s.Lists other child → parent ≤ other

theorem keys_resolved (s : TutorialShelf) : s.resolved.1.tutorials.keys = s.tutorials.keys :=
  Tutorials.keys_applyAll s.tutorials s.pending

theorem lists_resolved :
    Tutorials.Lists s.resolved.1.tutorials parent child ↔ s.Lists parent child :=
  Tutorials.lists_applyAll s.tutorials s.pending parent child

theorem isParent_resolved :
    Tutorials.IsParent s.resolved.1.tutorials parent child ↔ s.IsParent parent child := by
  constructor
  · rintro ⟨known, lists, first⟩
    exact ⟨keys_resolved s ▸ known, lists_resolved.mp lists,
      fun other lists => first other (lists_resolved.mpr lists)⟩
  · rintro ⟨loaded, lists, first⟩
    exact ⟨(keys_resolved s).symm ▸ loaded, lists_resolved.mpr lists,
      fun other lists => first other (lists_resolved.mp lists)⟩

theorem acyclic_resolved (acyclic : ∀ name, ¬ Relation.TransGen s.IsParent name name)
    (name : String) :
    ¬ Relation.TransGen (Tutorials.IsParent s.resolved.1.tutorials) name name :=
  fun circle => acyclic name <|
    Relation.TransGen.mono (fun _ _ => isParent_resolved.mp) _ _ circle

theorem nests_resolved (s : TutorialShelf) :
    Tutorials.Nests s.resolved.1.tutorials s.resolved.1.tree.children :=
  Tutorials.nests_tree s.resolved.1.tutorials

/-- **Tutorials are nested as declared, and none is lost.** The tree is the outcome of a recursion
that nothing cuts short. Every tutorial of the shelf is in it and no other; each is at the top or
below its parent. As long as no tutorial is above itself, those at the top are the ones that nobody
lists, in the order of their names, and all others are below their parents. -/
theorem resolved_nesting (s : TutorialShelf) :
    let trees := s.resolved.1.tree.children
    Tutorials.Nests s.resolved.1.tutorials trees ∧
      (∀ name, name ∈ namesAmong trees ↔ name ∈ s.tutorials.keys) ∧
      (∀ parent child, (parent, child) ∈ linksAmong trees → s.IsParent parent child) ∧
      ((∀ name, ¬ Relation.TransGen s.IsParent name name) →
        (trees.map (·.name)).Pairwise (· < ·) ∧
          (∀ name, name ∈ trees.map (·.name) ↔
            name ∈ s.tutorials.keys ∧ ∀ parent, ¬ s.Lists parent name) ∧
          ∀ parent child, s.IsParent parent child → (parent, child) ∈ linksAmong trees) := by
  intro trees
  have nests : Tutorials.Nests s.resolved.1.tutorials trees := s.nests_resolved
  refine ⟨nests, fun name => ?_, fun parent child link => ?_, fun acyclic => ?_⟩
  · rw [nests.mem_names, keys_resolved]
  · exact isParent_resolved.mp (nests.isParent_of_link link)
  · have acyclic := acyclic_resolved acyclic
    have roots := nests.roots_of_acyclic acyclic
    refine ⟨?_, fun name => ?_, fun parent child own => ?_⟩
    · rw [roots]
      exact (Table.pairwise_keys _).filter _
    · rw [roots, Tutorials.mem_free, keys_resolved]
      refine and_congr_right fun loaded => ?_
      rw [Tutorials.get?_parents_eq_none_iff ((keys_resolved s).symm ▸ loaded)]
      exact forall_congr' fun parent => not_congr lists_resolved
    · exact nests.link_of_isParent acyclic (isParent_resolved.mpr own)

/-- Two tutorials, and settings that have the first list some children. -/
def pair (named : List String) : TutorialShelf :=
  { tutorials := .ofList
      [("a", { title := "a", content := "A" }), ("b", { title := "b", content := "B" })]
    pending := [("a", { named })] }

theorem lists_pair {named : List String} :
    (pair named).Lists parent child ↔ parent = "a" ∧ child ∈ named := by
  constructor
  · rintro (⟨t, found, listed⟩ | declared)
    · have childless : ∀ e ∈ (pair named).tutorials.entries, e.2.children = [] := by
        show ∀ e ∈ (pair []).tutorials.entries, e.2.children = []
        decide
      rw [childless _ (Table.mem_entries_of_get? found)] at listed
      cases listed
    · have declares := (TutorialSettings.declares_singleton.mp declared).2
      simpa [TutorialSettings.declares_nil] using declares
  · rintro ⟨rfl, listed⟩
    have there : "a" ∈ (pair named).tutorials.keys := by
      show "a" ∈ (pair []).tutorials.keys
      decide
    exact .inr (TutorialSettings.declares_singleton.mpr ⟨there, .inl ⟨rfl, .inl listed⟩⟩)

theorem acyclic_pair {named : List String} (others : "a" ∉ named) (name : String) :
    ¬ Relation.TransGen (pair named).IsParent name name := by
  intro circle
  obtain ⟨_, first, -⟩ := Relation.TransGen.head'_iff.mp circle
  obtain ⟨_, -, last⟩ := Relation.TransGen.tail'_iff.mp circle
  obtain rfl : name = "a" := (lists_pair.mp first.lists).1
  exact others (lists_pair.mp last.lists).2

theorem isParent_pair {named : List String} (listed : "b" ∈ named) :
    (pair named).IsParent "a" "b" := by
  refine ⟨?_, lists_pair.mpr ⟨rfl, listed⟩, fun _ lists => (lists_pair.mp lists).1 ▸ Std.le_refl _⟩
  show "b" ∈ (pair []).tutorials.keys
  decide

theorem resolved_nesting_pair :
    (∀ name, ¬ Relation.TransGen (pair ["b"]).IsParent name name) ∧
      (pair ["b"]).IsParent "a" "b" ∧
      ("a", "b") ∈ linksAmong (pair ["b"]).resolved.1.tree.children := by
  have acyclic (name : String) : ¬ Relation.TransGen (pair ["b"]).IsParent name name :=
    acyclic_pair (by decide) name
  have own : (pair ["b"]).IsParent "a" "b" := isParent_pair (by decide)
  exact ⟨acyclic, own, ((resolved_nesting (pair ["b"])).2.2.2 acyclic).2.2 "a" "b" own⟩

/-- **A name is repeated only where a list repeats it.** The tutorials in the tree are all different
just if each one below another is listed once by that one. -/
theorem resolved_nodup_iff (s : TutorialShelf) :
    (namesAmong s.resolved.1.tree.children).Nodup ↔
      ∀ parent child t, (parent, child) ∈ linksAmong s.resolved.1.tree.children →
        s.resolved.1.tutorials.get? parent = some t → t.children.count child = 1 :=
  s.nests_resolved.names_nodup_iff

/-- A child that is listed twice is there twice. -/
theorem resolved_repeated_pair :
    ¬ (namesAmong (pair ["b", "b"]).resolved.1.tree.children).Nodup := by
  intro nodup
  have nests := (pair ["b", "b"]).nests_resolved
  have link := nests.link_of_isParent (acyclic_resolved (acyclic_pair (by decide)))
    (isParent_resolved.mpr (isParent_pair (by decide)))
  have found : (pair ["b", "b"]).resolved.1.tutorials.get? "a" =
      some { title := "a", content := "A", children := ["b", "b"] } := by
    decide
  have twice : (namesAmong (pair ["b", "b"]).resolved.1.tree.children).count "b" = 2 :=
    nests.count_of_link link found
  exact absurd (List.nodup_iff_count_le_one.mp nodup "b") (by omega)

end TutorialShelf

end RefDoc
