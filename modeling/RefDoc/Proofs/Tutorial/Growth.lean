import RefDoc.Proofs.Tutorial.Claims

/-!
# Growing trees of tutorials

A tree grows from its root: the children that go to a tutorial are put below it unless they are
placed already. `Tutorials.Grows` is that recursion with no eye on the path to the tutorial. It
gives what `Tutorials.growAll` gives (`Tutorials.grows_growAll`), so that the recursion ends without
anything that watches the path. What trees hold is read off it: `Tutorials.Grows.mem_placed` for
their names, `Tutorials.Grows.parent_of_link` for their links.
-/

namespace RefDoc

namespace TutorialTree

mutual

/-- Who is directly below whom in a tree, by name. -/
def links : TutorialTree → List (String × String)
  | ⟨name, _, _, children⟩ => children.map (name, ·.name) ++ linksAmong children

def linksAmong : List TutorialTree → List (String × String)
  | [] => []
  | t :: rest => links t ++ linksAmong rest

end

mutual

theorem count_names (name : String) : ∀ t : TutorialTree,
    t.names.count name = [t.name].count name + (t.links.map (·.2)).count name
  | ⟨own, title, content, children⟩ => by
    rw [names, links, List.map_append, List.count_append, List.map_map]
    simp only [List.count_cons, List.count_nil, count_namesAmong name children, Function.comp_def]
    omega

theorem count_namesAmong (name : String) : ∀ l : List TutorialTree,
    (namesAmong l).count name =
      (l.map (·.name)).count name + ((linksAmong l).map (·.2)).count name
  | [] => rfl
  | t :: rest => by
    simp only [namesAmong, linksAmong, List.map_append, List.count_append, List.map_cons,
      List.count_cons, List.count_nil, count_names name t, count_namesAmong name rest]
    omega

end

mutual

theorem mem_names_of_mem_links {parent child : String} : ∀ t : TutorialTree,
    (parent, child) ∈ t.links → parent ∈ t.names
  | ⟨name, title, content, children⟩, link => by
    rw [links, List.mem_append] at link
    rw [names, List.mem_cons]
    rcases link with top | below
    · obtain ⟨_, -, same⟩ := List.mem_map.mp top
      exact .inl (Prod.mk.inj same).1.symm
    · exact .inr (mem_namesAmong_of_mem_linksAmong children below)

theorem mem_namesAmong_of_mem_linksAmong {parent child : String} : ∀ l : List TutorialTree,
    (parent, child) ∈ linksAmong l → parent ∈ namesAmong l
  | t :: rest, link => by
    rw [linksAmong, List.mem_append] at link
    rw [namesAmong, List.mem_append]
    exact link.imp (mem_names_of_mem_links t) (mem_namesAmong_of_mem_linksAmong rest)

end

/-- A name is that of a tree of the list, or below another. -/
theorem mem_namesAmong_iff {name : String} {l : List TutorialTree} :
    name ∈ namesAmong l ↔
      name ∈ l.map (·.name) ∨ ∃ parent, (parent, name) ∈ linksAmong l := by
  have below : name ∈ (linksAmong l).map (·.2) ↔ ∃ parent, (parent, name) ∈ linksAmong l := by
    simp
  rw [← below, ← List.count_pos_iff, ← List.count_pos_iff, ← List.count_pos_iff, count_namesAmong]
  omega

theorem linksAmong_append (l l' : List TutorialTree) :
    linksAmong (l ++ l') = linksAmong l ++ linksAmong l' := by
  induction l with
  | nil => rfl
  | cons t rest ih => rw [List.cons_append, linksAmong, linksAmong, ih, List.append_assoc]

theorem count_links_cons (name : String) (own title content : String)
    (children rest : List TutorialTree) :
    ((linksAmong (⟨own, title, content, children⟩ :: rest)).map (·.2)).count name =
      (children.map (·.name)).count name + ((linksAmong children).map (·.2)).count name +
        ((linksAmong rest).map (·.2)).count name := by
  simp only [linksAmong, links, List.map_append, List.map_map, List.count_append,
    Function.comp_def]

theorem count_links_eq_zero {name : String} {l : List TutorialTree}
    (unlinked : ∀ parent, (parent, name) ∉ linksAmong l) :
    ((linksAmong l).map (·.2)).count name = 0 := by
  rw [List.count_eq_zero, List.mem_map]
  rintro ⟨⟨parent, _⟩, link, rfl⟩
  exact unlinked parent link

end TutorialTree

open TutorialTree

namespace Tutorials

/-- Trees grown from the names, and who is placed before and after. -/
inductive Grows (ts : Tutorials) (parents : Parents) :
    List String → List String → List TutorialTree → List String → Prop
  | nil {placed : List String} : Grows ts parents placed [] [] placed
  | cons {placed placed₁ placed₂ names : List String} {name : String} {t : Tutorial}
      {children trees : List TutorialTree} :
      ts.get? name = some t →
      Grows ts parents (name :: placed)
        (t.children.filter fun c => parents.get? c = some name ∧ c ∉ name :: placed)
        children placed₁ →
      Grows ts parents placed₁ names trees placed₂ →
      Grows ts parents placed (name :: names)
        (⟨name, t.title, t.content, children⟩ :: trees) placed₂

/-- Attaches those of the list that are not placed when their turn comes; they are listed before the
trees that grow from them. -/
inductive Attaches (ts : Tutorials) (parents : Parents) :
    List String → List String → List String → List TutorialTree → List String → Prop
  | nil {placed : List String} : Attaches ts parents placed [] [] [] placed
  | placed {placed placed' names strays : List String} {name : String}
      {trees : List TutorialTree} :
      name ∈ placed → Attaches ts parents placed names strays trees placed' →
      Attaches ts parents placed (name :: names) strays trees placed'
  | stray {placed placed₁ placed₂ names strays : List String} {name : String}
      {tree : TutorialTree} {trees : List TutorialTree} :
      name ∉ placed → Grows ts parents placed [name] [tree] placed₁ →
      Attaches ts parents placed₁ names strays trees placed₂ →
      Attaches ts parents placed (name :: names) (name :: strays) (tree :: trees) placed₂

variable {ts : Tutorials} {parents : Parents}
  {path placed placed₁ placed₂ placed' names names' strays : List String}
  {trees trees' : List TutorialTree}

namespace Grows

theorem append (h : Grows ts parents placed names trees placed₁)
    (h' : Grows ts parents placed₁ names' trees' placed₂) :
    Grows ts parents placed (names ++ names') (trees ++ trees') placed₂ := by
  induction h with
  | nil => exact h'
  | cons found below _ _ ih => exact .cons found below (ih h')

theorem roots (h : Grows ts parents placed names trees placed') :
    trees.map (·.name) = names := by
  induction h with
  | nil => rfl
  | cons _ _ _ _ ih => rw [List.map_cons, ih]

theorem mem_placed {name : String} (h : Grows ts parents placed names trees placed') :
    name ∈ placed' ↔ name ∈ placed ∨ name ∈ namesAmong trees := by
  induction h with
  | nil => simp [namesAmong]
  | cons _ _ _ below rest =>
    simp only [rest, below, namesAmong, TutorialTree.names, List.mem_cons, List.mem_append,
      or_assoc, or_left_comm]

theorem placed_of_mem_roots {name : String} (h : Grows ts parents placed names trees placed')
    (root : name ∈ names) : name ∈ placed' :=
  h.mem_placed.mpr (.inr (mem_namesAmong_iff.mpr (.inl (h.roots ▸ root))))

theorem known {name : String} (h : Grows ts parents placed names trees placed')
    (member : name ∈ namesAmong trees) : name ∈ ts.keys := by
  induction h with
  | nil => cases member
  | cons found _ _ below rest =>
    rcases List.mem_append.mp member with here | later
    · rcases List.mem_cons.mp here with rfl | here
      · exact Table.mem_keys_of_get? found
      · exact below here
    · exact rest later

/-- A tutorial is put below its parent only. It is not the first to grow, and not one that was
placed before. -/
theorem of_link {parent child : String} (h : Grows ts parents placed names trees placed')
    (link : (parent, child) ∈ linksAmong trees) :
    parents.get? child = some parent ∧ child ∉ names.head?.toList ++ placed := by
  induction h with
  | nil => cases link
  | @cons placed placed₁ _ _ name t children _ found grown _ below rest =>
    show _ ∧ child ∉ name :: placed
    rcases List.mem_append.mp link with here | later
    · rcases List.mem_append.mp here with top | here
      · obtain ⟨tree, member, same⟩ := List.mem_map.mp top
        cases same
        have chosen : tree.name ∈ children.map (·.name) := List.mem_map_of_mem member
        rw [grown.roots] at chosen
        exact of_decide_eq_true (List.mem_filter.mp chosen).2
      · obtain ⟨own, fresh⟩ := below here
        exact ⟨own, fun there => fresh (List.mem_append_right _ there)⟩
    · obtain ⟨own, fresh⟩ := rest later
      exact ⟨own, fun there =>
        fresh (List.mem_append_right _ (grown.mem_placed.mpr (.inl there)))⟩

theorem parent_of_link {parent child : String} (h : Grows ts parents placed names trees placed')
    (link : (parent, child) ∈ linksAmong trees) : parents.get? child = some parent :=
  (h.of_link link).1

theorem not_placed_of_link {parent child : String}
    (h : Grows ts parents placed names trees placed') (link : (parent, child) ∈ linksAmong trees) :
    child ∉ placed :=
  fun there => (h.of_link link).2 (List.mem_append_right _ there)

/-- Nothing in the trees is below what was placed before. -/
theorem mem_roots_of_mem_placed {name : String} (h : Grows ts parents placed names trees placed')
    (member : name ∈ namesAmong trees) (there : name ∈ placed) : name ∈ names := by
  rcases mem_namesAmong_iff.mp member with root | ⟨parent, link⟩
  · rwa [h.roots] at root
  · exact absurd there (h.not_placed_of_link link)

/-- Where a tutorial is in the trees, its children are placed. -/
theorem closed {parent child : String} (h : Grows ts parents placed names trees placed')
    (own : parents.get? child = some parent) (lists : ts.Lists parent child)
    (member : parent ∈ namesAmong trees) : child ∈ placed' := by
  induction h with
  | nil => cases member
  | @cons placed placed₁ _ _ name t children trees found grown others below rest =>
    rcases List.mem_append.mp member with here | later
    · refine others.mem_placed.mpr (.inl ?_)
      rcases List.mem_cons.mp here with rfl | here
      · by_cases there : child ∈ parent :: placed
        · exact grown.mem_placed.mpr (.inl there)
        · obtain ⟨t', found', listed⟩ := lists
          obtain rfl : t' = t := Option.some.inj (found'.symm.trans found)
          exact grown.placed_of_mem_roots
            (List.mem_filter.mpr ⟨listed, decide_eq_true ⟨own, there⟩⟩)
      · exact below here
    · exact rest later

/-- A tutorial that came into the trees is one of their roots, or came with its parent. -/
theorem parent_mem {parent child : String} (h : Grows ts parents placed names trees placed')
    (own : parents.get? child = some parent) (member : child ∈ placed') :
    child ∈ placed ∨ child ∈ names ∨ parent ∈ namesAmong trees := by
  refine (h.mem_placed.mp member).imp_right fun member => ?_
  rcases mem_namesAmong_iff.mp member with root | ⟨other, link⟩
  · exact .inl (h.roots ▸ root)
  · obtain rfl : other = parent :=
      Option.some.inj ((h.parent_of_link link).symm.trans own)
    exact .inr (mem_namesAmong_of_mem_linksAmong _ link)

theorem count_links_of_placed {child : String} (h : Grows ts parents placed names trees placed')
    (there : child ∈ placed) : ((linksAmong trees).map (·.2)).count child = 0 :=
  count_links_eq_zero fun _ link => h.not_placed_of_link link there

theorem count_links_of_absent {parent child : String}
    (h : Grows ts parents placed names trees placed') (own : parents.get? child = some parent)
    (absent : parent ∉ namesAmong trees) : ((linksAmong trees).map (·.2)).count child = 0 :=
  count_links_eq_zero fun other link => absent <| by
    obtain rfl : other = parent :=
      Option.some.inj ((h.parent_of_link link).symm.trans own)
    exact mem_namesAmong_of_mem_linksAmong _ link

/-- **How often a tutorial is put below its parent**: as often as the parent lists it, as soon as
the parent is in the trees. -/
theorem count_links {parent child : String} {t : Tutorial}
    (h : Grows ts parents placed names trees placed') (own : parents.get? child = some parent)
    (found : ts.get? parent = some t) (listed : child ∈ t.children) (new : parent ∉ placed)
    (fresh : child ∉ placed) (notRoot : child ∉ names) :
    ((linksAmong trees).map (·.2)).count child =
      if parent ∈ placed' then t.children.count child else 0 := by
  induction h with
  | nil => rw [if_neg new]; rfl
  | @cons placed placed₁ placed₂ names name t' children trees found' grown others below rest =>
    have differs : child ≠ name := List.ne_of_not_mem_cons notRoot
    have fresh' : child ∉ name :: placed := List.not_mem_cons_of_ne_of_not_mem differs fresh
    have chosen_iff (c : String) : (c ∈ t'.children.filter
          fun c => parents.get? c = some name ∧ c ∉ name :: placed) ↔
        c ∈ t'.children ∧ parents.get? c = some name ∧ c ∉ name :: placed := by
      rw [List.mem_filter, decide_eq_true_iff]
    rw [count_links_cons, grown.roots]
    by_cases same : name = parent
    · -- all mentions of the child are put below the parent, which does not come up again with a
      -- child that is not placed
      subst same
      obtain rfl : t' = t := Option.some.inj (found'.symm.trans found)
      have there : name ∈ placed₁ := grown.mem_placed.mpr (.inl List.mem_cons_self)
      have child_there : child ∈ placed₁ :=
        grown.placed_of_mem_roots ((chosen_iff child).mpr ⟨listed, own, fresh'⟩)
      have absent : name ∉ namesAmong children := fun member =>
        ((chosen_iff name).mp (grown.mem_roots_of_mem_placed member List.mem_cons_self)).2.2
          List.mem_cons_self
      rw [grown.count_links_of_absent own absent, others.count_links_of_placed child_there,
        if_pos (others.mem_placed.mpr (.inl there)), List.count_filter, Nat.add_zero]
      simpa only [own, true_and, decide_eq_true_iff] using fresh'
    · have notChosen : child ∉ t'.children.filter
          fun c => parents.get? c = some name ∧ c ∉ name :: placed := fun member =>
        same (Option.some.inj (((chosen_iff child).mp member).2.1.symm.trans own))
      have new' : parent ∉ name :: placed :=
        List.not_mem_cons_of_ne_of_not_mem (Ne.symm same) new
      rw [List.count_eq_zero.mpr notChosen, below new' fresh' notChosen, Nat.zero_add]
      by_cases there : parent ∈ placed₁
      · have child_there : child ∈ placed₁ :=
          grown.closed own ⟨t, found, listed⟩ ((grown.mem_placed.mp there).resolve_left new')
        rw [others.count_links_of_placed child_there, if_pos there,
          if_pos (others.mem_placed.mpr (.inl there)), Nat.add_zero]
      · have child_fresh : child ∉ placed₁ := fun member => by
          rcases grown.parent_mem own member with placed | root | parent
          · exact fresh' placed
          · exact notChosen root
          · exact there (grown.mem_placed.mpr (.inr parent))
        rw [if_neg there, rest there child_fresh (List.not_mem_of_not_mem_cons notRoot),
          Nat.zero_add]

end Grows

/-! ### The recursion -/

theorem grow_of_fresh {name : String} {t : Tutorial} (found : ts.get? name = some t)
    (offPath : name ∉ path) :
    ts.grow parents path placed name =
      let below := t.children.filter fun c => parents.get? c = some name ∧ c ∉ name :: placed
      let (children, placed) := ts.growAll parents (name :: path) (name :: placed) below
      (⟨name, t.title, t.content, children⟩, placed) := by
  rw [grow]
  split
  · next unknown => cases unknown.symm.trans found
  · next t' known =>
    obtain rfl : t' = t := Option.some.inj (known.symm.trans found)
    rw [dif_neg offPath]

/-- **The path is never in the way**: what is on it is placed, and what is placed does not grow
again. -/
theorem grows_growAll (known : ∀ child parent, parents.get? child = some parent → child ∈ ts.keys)
    (onPath : ∀ name ∈ path, name ∈ placed) (there : ∀ name ∈ names, name ∈ ts.keys ∧ name ∉ path) :
    Grows ts parents placed names (ts.growAll parents path placed names).1
      (ts.growAll parents path placed names).2 := by
  refine (Tutorials.grow.mutual_induct ts parents
    (fun path placed name => (∀ x ∈ path, x ∈ placed) → name ∈ ts.keys → name ∉ path →
      Grows ts parents placed [name] [(ts.grow parents path placed name).1]
        (ts.grow parents path placed name).2)
    (fun path placed names => (∀ x ∈ path, x ∈ placed) →
      (∀ name ∈ names, name ∈ ts.keys ∧ name ∉ path) →
      Grows ts parents placed names (ts.growAll parents path placed names).1
        (ts.growAll parents path placed names).2) ?_ ?_ ?_ ?_ ?_).2 path placed names onPath there
  · intro path placed name unknown _ there
    obtain ⟨t, found⟩ := Table.mem_keys.mp there
    cases unknown.symm.trans found
  · intro path placed name t _ onPath _ _ offPath
    exact absurd onPath offPath
  · intro path placed name t found offPath placed₁ below children placed₂ grown ih onPath _ _
    have grows := ih (fun x member => by
        rcases List.mem_cons.mp member with rfl | member
        · exact List.mem_cons_self
        · exact List.mem_cons_of_mem _ (onPath x member))
      (fun x member => by
        obtain ⟨own, fresh⟩ := of_decide_eq_true (List.mem_filter.mp member).2
        refine ⟨known _ _ own, fun there => fresh ?_⟩
        rcases List.mem_cons.mp there with rfl | there
        · exact List.mem_cons_self
        · exact List.mem_cons_of_mem _ (onPath x there))
    rw [grow_of_fresh found offPath]
    exact .cons found grows .nil
  · intro path placed _ _
    rw [growAll]
    exact .nil
  · intro path placed name rest tree placed₁ grown trees placed₂ rest_grown first others onPath there
    have first := first onPath (there _ List.mem_cons_self).1 (there _ List.mem_cons_self).2
    rw [grown] at first
    have others := others (fun x member => first.mem_placed.mpr (.inl (onPath x member)))
      (fun x member => there x (List.mem_cons_of_mem _ member))
    rw [rest_grown] at others
    simp only [growAll, grown, rest_grown]
    exact first.append others

/-! ### What is left over -/

theorem attaches_attach
    (known : ∀ child parent, parents.get? child = some parent → child ∈ ts.keys)
    (there : ∀ name ∈ names, name ∈ ts.keys) (placed : List String) :
    ∃ strays placed', Attaches ts parents placed names strays
      (ts.attach parents placed names).1 placed' := by
  induction names generalizing placed with
  | nil => exact ⟨_, _, .nil⟩
  | cons name rest ih =>
    have there' := fun x member => there x (List.mem_cons_of_mem _ member)
    rw [attach]
    by_cases already : name ∈ placed
    · rw [if_pos already]
      obtain ⟨strays, placed', attaches⟩ := ih there' placed
      exact ⟨_, _, .placed already attaches⟩
    · rw [if_neg already]
      have grown : Grows ts parents placed [name] [(ts.grow parents [] placed name).1]
          (ts.grow parents [] placed name).2 := by
        have grows : Grows ts parents placed [name] (ts.growAll parents [] placed [name]).1
            (ts.growAll parents [] placed [name]).2 :=
          grows_growAll known (fun _ member => nomatch member)
            (fun x member => ⟨there x (List.mem_singleton.mp member ▸ List.mem_cons_self),
              List.not_mem_nil⟩)
        simpa only [growAll] using grows
      obtain ⟨strays, placed', attaches⟩ := ih there' (ts.grow parents [] placed name).2
      exact ⟨_, _, .stray already grown attaches⟩

namespace Attaches

theorem grows (h : Attaches ts parents placed names strays trees placed') :
    Grows ts parents placed strays trees placed' := by
  induction h with
  | nil => exact .nil
  | placed _ _ ih => exact ih
  | stray _ grown _ ih => exact grown.append ih

theorem placed_of_mem {name : String} (h : Attaches ts parents placed names strays trees placed')
    (member : name ∈ names) : name ∈ placed' := by
  induction h with
  | nil => cases member
  | placed already attaches ih =>
    rcases List.mem_cons.mp member with rfl | member
    · exact attaches.grows.mem_placed.mpr (.inl already)
    · exact ih member
  | stray _ grown attaches ih =>
    rcases List.mem_cons.mp member with rfl | member
    · exact attaches.grows.mem_placed.mpr (.inl (grown.placed_of_mem_roots List.mem_cons_self))
    · exact ih member

theorem strays_sublist (h : Attaches ts parents placed names strays trees placed') :
    strays.Sublist names := by
  induction h with
  | nil => exact .slnil
  | placed _ _ ih => exact .cons _ ih
  | stray _ _ _ ih => exact .cons_cons _ ih

theorem not_placed {name : String} (h : Attaches ts parents placed names strays trees placed')
    (member : name ∈ strays) : name ∉ placed := by
  induction h with
  | nil => cases member
  | placed _ _ ih => exact ih member
  | stray fresh grown _ ih =>
    rcases List.mem_cons.mp member with rfl | member
    · exact fresh
    · exact fun there => ih member (grown.mem_placed.mpr (.inl there))

theorem unlinked {parent name : String}
    (h : Attaches ts parents placed names strays trees placed') (member : name ∈ strays) :
    (parent, name) ∉ linksAmong trees := by
  induction h with
  | nil => cases member
  | placed _ _ ih => exact ih member
  | @stray placed placed₁ placed₂ names strays first tree trees fresh grown attaches ih =>
    intro link
    rw [linksAmong, List.mem_append] at link
    have inFirst : (parent, name) ∈ tree.links → (parent, name) ∈ linksAmong [tree] := fun link =>
      by simpa [linksAmong] using link
    rcases List.mem_cons.mp member with rfl | member
    · rcases link with here | later
      · exact (grown.of_link (inFirst here)).2 List.mem_cons_self
      · exact attaches.grows.not_placed_of_link later
          (grown.placed_of_mem_roots List.mem_cons_self)
    · rcases link with here | later
      · have below : name ∈ namesAmong [tree] :=
          mem_namesAmong_iff.mpr (.inr ⟨_, inFirst here⟩)
        exact attaches.not_placed member (grown.mem_placed.mpr (.inr below))
      · exact ih member later

end Attaches

end Tutorials

end RefDoc
