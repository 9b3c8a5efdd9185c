import RefDoc.Proofs.Json.Shown
import RefDoc.Proofs.Template.Untorn

/-!
# The symbol tree shows public chains

A node of the symbol tree stands for a chain of doclets, each a member of the one before and none
private, from one that belongs to no other. Taken by their positions in the collection the chains
are exactly the ways down the tree, in order (`mem_branchesAmong_forest`,
`pairwise_branchesAmong_forest`). Longnames may repeat and memberships may be circular.
-/

namespace RefDoc

/-- A tree of positions. -/
inductive Nest (n : Nat) where
  | node (position : Fin n) (members : List (Nest n))

namespace Nest

variable {n : Nat}

mutual

/-- The way from the top to each node, a node coming before those below it. -/
def branches : Nest n → List (List (Fin n))
  | .node i members => [i] :: (branchesAmong members).map (i :: ·)

def branchesAmong : List (Nest n) → List (List (Fin n))
  | [] => []
  | t :: rest => branches t ++ branchesAmong rest

end

theorem branchesAmong_eq (l : List (Nest n)) : branchesAmong l = l.flatMap branches := by
  induction l with
  | nil => rfl
  | cons t rest ih => rw [branchesAmong, ih, List.flatMap_cons]

theorem ne_nil_of_mem_branches {t : Nest n} {way : List (Fin n)} (member : way ∈ t.branches) :
    way ≠ [] := by
  obtain ⟨i, members⟩ := t
  rw [branches, List.mem_cons] at member
  rcases member with rfl | member
  · simp
  · obtain ⟨_, -, rfl⟩ := List.mem_map.mp member
    simp

variable {below : Fin n → List (Nest n)} {positions : List (Fin n)}

theorem mem_branchesAmong_map {way : List (Fin n)} :
    way ∈ branchesAmong (positions.map fun i => .node i (below i)) ↔
      ∃ i ∈ positions, ∃ rest, way = i :: rest ∧ (rest = [] ∨ rest ∈ branchesAmong (below i)) := by
  rw [branchesAmong_eq, List.flatMap_map, List.mem_flatMap]
  refine exists_congr fun i => and_congr_right fun _ => ?_
  rw [branches, List.mem_cons, List.mem_map]
  constructor
  · rintro (rfl | ⟨rest, member, rfl⟩)
    · exact ⟨[], rfl, .inl rfl⟩
    · exact ⟨rest, rfl, .inr member⟩
  · rintro ⟨rest, rfl, rfl | member⟩
    · exact .inl rfl
    · exact .inr ⟨rest, member, rfl⟩

/-- The ways come in order if the nodes at the top do and the ways below each of them. -/
theorem pairwise_branchesAmong (ascending : positions.Pairwise (· < ·))
    (ordered : ∀ i ∈ positions, (branchesAmong (below i)).Pairwise (· < ·)) :
    (branchesAmong (positions.map fun i => .node i (below i))).Pairwise (· < ·) := by
  rw [branchesAmong_eq, List.flatMap_map, List.pairwise_flatMap]
  refine ⟨fun i member => ?_, ascending.imp fun {i j} before way member way' member' => ?_⟩
  · rw [branches, List.pairwise_cons, List.pairwise_map]
    constructor
    · intro way member'
      obtain ⟨rest, below, rfl⟩ := List.mem_map.mp member'
      rw [branchesAmong_eq] at below
      obtain ⟨t, -, below⟩ := List.mem_flatMap.mp below
      obtain ⟨j, rest, rfl⟩ := List.exists_cons_of_ne_nil (ne_nil_of_mem_branches below)
      exact List.cons_lt_cons_iff.mpr (.inr ⟨rfl, List.nil_lt_cons j rest⟩)
    · exact (ordered i member).imp fun later => List.cons_lt_cons_iff.mpr (.inr ⟨rfl, later⟩)
  · have starts {k : Fin n} {way : List (Fin n)} (member : way ∈ branches (.node k (below k))) :
        ∃ rest, way = k :: rest := by
      rw [branches, List.mem_cons, List.mem_map] at member
      rcases member with rfl | ⟨rest, -, rfl⟩
      · exact ⟨[], rfl⟩
      · exact ⟨rest, rfl⟩
    obtain ⟨rest, rfl⟩ := starts member
    obtain ⟨rest', rfl⟩ := starts member'
    exact List.cons_lt_cons_iff.mpr (.inl before)

end Nest

open Nest

namespace Collection

variable (all : Collection)

def doclet (i : Fin all.size) : Doclet := all.doclets.get i

/-- Positions of doclets, each a member of the one before, none private, and the first one that
belongs to no other and is not a package. -/
structure PublicChain (chain : List (Fin all.size)) : Prop where
  top : ∃ i ∈ chain.head?, (all.doclet i).memberOf = none ∧ (all.doclet i).kind ≠ .package
  linked : chain.IsChain fun i j => (all.doclet j).memberOf = some (all.doclet i).longname
  shown : ∀ i ∈ chain, (all.doclet i).isPrivate = false

/-- A chain of members from one of `parent` down. -/
def LeadsDown : String → List (Fin all.size) → Prop
  | _, [] => True
  | parent, i :: rest => (all.doclet i).memberOf = some parent ∧ (all.doclet i).isPrivate = false ∧
      LeadsDown (all.doclet i).longname rest

theorem leadsDown_iff {i : Fin all.size} {rest : List (Fin all.size)} :
    all.LeadsDown (all.doclet i).longname rest ↔
      ((i :: rest).IsChain fun i j => (all.doclet j).memberOf = some (all.doclet i).longname) ∧
        ∀ j ∈ rest, (all.doclet j).isPrivate = false := by
  induction rest generalizing i with
  | nil => simp [LeadsDown]
  | cons j rest ih =>
    rw [LeadsDown, ih, List.isChain_cons_cons, List.forall_mem_cons]
    tauto

theorem publicChain_cons {i : Fin all.size} {rest : List (Fin all.size)} :
    all.PublicChain (i :: rest) ↔
      (all.doclet i).memberOf = none ∧ (all.doclet i).kind ≠ .package ∧
        (all.doclet i).isPrivate = false ∧ all.LeadsDown (all.doclet i).longname rest := by
  rw [leadsDown_iff]
  constructor
  · rintro ⟨⟨_, ⟨⟩, top, kind⟩, linked, shown⟩
    obtain ⟨first, shown⟩ := List.forall_mem_cons.mp shown
    exact ⟨top, kind, first, linked, shown⟩
  · rintro ⟨top, kind, first, linked, shown⟩
    exact ⟨⟨i, rfl, top, kind⟩, linked, List.forall_mem_cons.mpr ⟨first, shown⟩⟩

/-! ### The tree of positions -/

/-- The positions of the doclets that satisfy `p`, in order. -/
def positionsOf (p : Doclet → Bool) : List (Fin all.size) :=
  (List.finRange all.size).filter fun i => p (all.doclet i)

theorem mem_positionsOf {p : Doclet → Bool} {i : Fin all.size} :
    i ∈ all.positionsOf p ↔ p (all.doclet i) := by
  simp [positionsOf]

theorem pairwise_positionsOf (p : Doclet → Bool) : (all.positionsOf p).Pairwise (· < ·) :=
  (List.pairwise_lt_finRange all.size).filter _

theorem map_positionsOf (p : Doclet → Bool) :
    (all.positionsOf p).map all.doclet = all.doclets.filter p := by
  have whole : (List.finRange all.size).map all.doclet = all.doclets := List.map_get_finRange ..
  rw [← whole, List.filter_map]
  rfl

/-- The positions of the members of `parent` that are not private, with those below them. -/
def nestUnder : Nat → String → List (Nest all.size)
  | 0, _ => []
  | depth + 1, parent =>
    (all.positionsOf fun d => !d.isPrivate && d.memberOf == some parent).map fun i =>
      .node i (nestUnder depth (all.doclet i).longname)

/-- The positions that the symbol tree shows. -/
def forest : List (Nest all.size) :=
  (all.positionsOf fun d => d.kind != .package && d.memberOf.isNone && !d.isPrivate).map fun i =>
    .node i (all.nestUnder SymbolTree.depth (all.doclet i).longname)

/-- By induction on the depth: a way of at most that length is one step and a way from there. -/
theorem mem_branchesAmong_nestUnder {depth : Nat} {parent : String} {chain : List (Fin all.size)} :
    chain ∈ branchesAmong (all.nestUnder depth parent) ↔
      chain ≠ [] ∧ chain.length ≤ depth ∧ all.LeadsDown parent chain := by
  induction depth generalizing parent chain with
  | zero =>
    rw [nestUnder, branchesAmong]
    constructor
    · nofun
    · rintro ⟨written, short, -⟩
      exact absurd (List.length_eq_zero_iff.mp (Nat.le_zero.mp short)) written
  | succ depth ih =>
    rw [nestUnder, mem_branchesAmong_map]
    constructor
    · rintro ⟨i, member, rest, rfl, below⟩
      obtain ⟨shown, belongs⟩ : (all.doclet i).isPrivate = false ∧ _ := by
        simpa [mem_positionsOf] using member
      have : rest.length ≤ depth ∧ all.LeadsDown (all.doclet i).longname rest := by
        rcases below with rfl | below
        · exact ⟨Nat.zero_le _, trivial⟩
        · exact (ih.mp below).2
      exact ⟨List.cons_ne_nil i rest, Nat.succ_le_succ this.1, belongs, shown, this.2⟩
    · rintro ⟨written, short, descends⟩
      obtain ⟨i, rest, rfl⟩ := List.exists_cons_of_ne_nil written
      obtain ⟨belongs, shown, descends⟩ := descends
      refine ⟨i, by simp [mem_positionsOf, belongs, shown], rest, rfl, ?_⟩
      by_cases last : rest = []
      · exact .inl last
      · exact .inr (ih.mpr ⟨last, Nat.le_of_succ_le_succ short, descends⟩)

theorem pairwise_branchesAmong_nestUnder (depth : Nat) (parent : String) :
    (branchesAmong (all.nestUnder depth parent)).Pairwise (· < ·) := by
  induction depth generalizing parent with
  | zero => exact .nil
  | succ depth ih =>
    exact pairwise_branchesAmong (all.pairwise_positionsOf _) fun i _ => ih _

theorem mem_branchesAmong_forest {chain : List (Fin all.size)} :
    chain ∈ branchesAmong all.forest ↔ chain.length ≤ 17 ∧ all.PublicChain chain := by
  rw [forest, mem_branchesAmong_map]
  constructor
  · rintro ⟨i, member, rest, rfl, below⟩
    obtain ⟨⟨kind, top⟩, shown⟩ : ((all.doclet i).kind ≠ .package ∧
        (all.doclet i).memberOf = none) ∧ (all.doclet i).isPrivate = false := by
      simpa [mem_positionsOf] using member
    have : rest.length ≤ 16 ∧ all.LeadsDown (all.doclet i).longname rest := by
      rcases below with rfl | below
      · exact ⟨Nat.zero_le _, trivial⟩
      · exact (all.mem_branchesAmong_nestUnder.mp below).2
    exact ⟨Nat.succ_le_succ this.1, all.publicChain_cons.mpr ⟨top, kind, shown, this.2⟩⟩
  · rintro ⟨short, chained⟩
    obtain ⟨i, first, -⟩ := chained.top
    obtain ⟨rest, rfl⟩ : ∃ rest, chain = i :: rest := by
      cases chain with
      | nil => cases first
      | cons j rest => exact ⟨rest, by rw [Option.some.inj first]⟩
    obtain ⟨top, kind, shown, descends⟩ := all.publicChain_cons.mp chained
    refine ⟨i, by simp [mem_positionsOf, top, kind, shown], rest, rfl, ?_⟩
    by_cases last : rest = []
    · exact .inl last
    · exact .inr (all.mem_branchesAmong_nestUnder.mpr
        ⟨last, Nat.le_of_succ_le_succ short, descends⟩)

theorem pairwise_branchesAmong_forest : (branchesAmong all.forest).Pairwise (· < ·) :=
  pairwise_branchesAmong (all.pairwise_positionsOf _) fun _ _ =>
    all.pairwise_branchesAmong_nestUnder _ _

end Collection

namespace Nest

variable (all : Collection)

mutual

/-- The symbols at the positions of a tree. -/
def symbol : Nest all.size → SymbolTree
  | .node i members => ⟨all.doclet i, symbolsAmong members⟩

def symbolsAmong : List (Nest all.size) → List SymbolTree
  | [] => []
  | t :: rest => symbol t :: symbolsAmong rest

end

theorem symbolsAmong_eq (l : List (Nest all.size)) : symbolsAmong all l = l.map (symbol all) := by
  induction l with
  | nil => rfl
  | cons t rest ih => rw [symbolsAmong, ih, List.map_cons]

theorem symbolsAmong_nestUnder (depth : Nat) (parent : String) :
    symbolsAmong all (all.nestUnder depth parent) = SymbolTree.under all depth parent := by
  induction depth generalizing parent with
  | zero => rfl
  | succ depth ih =>
    rw [symbolsAmong_eq, Collection.nestUnder, List.map_map, SymbolTree.under,
      Collection.membersOf, List.filter_filter, ← all.map_positionsOf, List.map_map]
    refine List.map_congr_left fun i _ => ?_
    simp only [Function.comp_apply, symbol, ih]

theorem map_symbol_forest : all.forest.map (symbol all) = SymbolTree.ofCollection all := by
  rw [Collection.forest, List.map_map, SymbolTree.ofCollection, ← all.map_positionsOf, List.map_map]
  refine List.map_congr_left fun i _ => ?_
  simp only [Function.comp_apply, symbol, symbolsAmong_nestUnder]

end Nest

/-! ### What is written -/

namespace SymbolTree

open Json

theorem jsonItems_eq (l : List SymbolTree) : jsonItems l = l.map toJson := by
  induction l with
  | nil => rfl
  | cons t rest ih => rw [jsonItems, ih, List.map_cons]

/-- The members of a symbol stand in its `members`, in order, and it has none without members. -/
theorem members_toJson (t : SymbolTree) : t.toJson.member? "members" =
    if t.members.isEmpty then none else some (.array (t.members.map toJson)) := by
  obtain ⟨d, members⟩ := t
  have absent : ∀ m ∈ [("name", Json.string d.name), ("longname", .string d.longname),
        ("kind", d.kind.toJson)] ++ ifSome "description" .string d.description ++
      ifSome "access" Access.toJson d.access ++ ifAny "extends" .string d.augments ++
        ifTrue "inherited" d.inherited, m.1 ≠ "members" := by
    simp only [List.forall_mem_append, List.forall_mem_cons, forall_mem_ifSome, forall_mem_ifAny,
      forall_mem_ifTrue]
    simp
  rw [toJson, member?, List.lookup_append, List.lookup_eq_none_iff.mpr, Option.none_or,
    jsonItems_eq]
  · by_cases empty : members.isEmpty <;> simp [empty]
  · exact fun m member => bne_iff_ne.mpr (absent m member).symm

theorem longname_toJson (t : SymbolTree) :
    t.toJson.member? "longname" = some (.string t.doclet.longname) := by
  obtain ⟨d, members⟩ := t
  simp [toJson, member?, List.lookup_cons]

theorem symbols_document (all : Collection) (tutorials : TutorialTree) :
    (document all tutorials).member? "symbols" =
      some (.array ((ofCollection all).map toJson)) := by
  rw [document, member?, List.lookup_append, List.lookup_append, jsonItems_eq]
  cases all.doclets.find? (·.kind == .package) <;> rfl

theorem publish_holds {σ : Type} {all : Collection} {options : Options} {tutorials : TutorialTree}
    {desk : Desk σ} {made : FileTree}
    (done : desk.files.makeDirectories options.outputDir = .ok made)
    (unlinked : made.linkTarget? (Page.draft ⟨"doclets.json", (document all tutorials).pretty⟩
      options.outputDir) = none) :
    let run := ((template : Template σ).publish all options tutorials).run.run desk
    run.1 = .ok () → made.HasFile run.2.1.files (options.outputDir / ⟨"doclets.json"⟩)
      (document all tutorials).pretty := by
  exact @Template.ofPages_last σ "JSON" pages all options tutorials desk made
    (placed_pages all options tutorials) done (List.forall_mem_singleton.mpr unlinked)
    [] [] ⟨"doclets.json", (document all tutorials).pretty⟩ rfl nofun

end SymbolTree

namespace Template

variable {σ : Type}

/-- **The symbol tree nests exactly the public chains.** The template writes one file, whose
`symbols` are a tree with one node for each chain of at most seventeen doclets (a symbol and sixteen
members below each other): the ways down the tree are those chains, each once and in the order of
the positions, a node comes right below that of the chain without its last doclet, and no other
symbol is in it. -/
theorem publish_nests (all : Collection) (options : Options) (tutorials : TutorialTree) :
    ∃ (forest : List (Nest all.size)) (document : Json),
      (SymbolTree.template : Template σ).publish all options tutorials =
        (ofPages "JSON" fun _ _ _ => [⟨"doclets.json", document.pretty⟩]).publish
          all options tutorials ∧
      (∀ (desk : Desk σ) (made : FileTree),
        desk.files.makeDirectories options.outputDir = .ok made →
        made.linkTarget? (Page.draft ⟨"doclets.json", document.pretty⟩ options.outputDir) = none →
        let run := (SymbolTree.template.publish all options tutorials).run.run desk
        run.1 = .ok () → made.HasFile run.2.1.files (options.outputDir / ⟨"doclets.json"⟩)
          document.pretty) ∧
      document.member? "symbols" = some (.array (forest.map fun t => (t.symbol all).toJson)) ∧
      (∀ t : SymbolTree, t.toJson.member? "longname" = some (.string t.doclet.longname) ∧
        t.toJson.member? "members" =
          if t.members.isEmpty then none else some (.array (t.members.map SymbolTree.toJson))) ∧
      (branchesAmong forest).Pairwise (· < ·) ∧
      ∀ chain, chain ∈ branchesAmong forest ↔ chain.length ≤ 17 ∧ all.PublicChain chain := by
  refine ⟨all.forest, SymbolTree.document all tutorials, rfl, fun desk made done unlinked => ?_, ?_,
    fun t => ⟨?_, t.members_toJson⟩, all.pairwise_branchesAmong_forest,
    fun _ => all.mem_branchesAmong_forest⟩
  · exact SymbolTree.publish_holds done unlinked
  · rw [SymbolTree.symbols_document, ← Nest.map_symbol_forest, List.map_map]
    rfl
  · exact t.longname_toJson

end Template

end RefDoc
