import RefDoc.Doclet.Collection
import RefDoc.Proofs.Table

/-!
# The longname index

`Exact c` says that the index of `c` gives for every longname its positions in increasing order.
Building the index and adding doclets keep it exact (`exact_push`, `exact_reindex`); changing a
doclet in place keeps it exact when the longnames stay (`Exact.congr`). Whatever is done to a
collection, its positions stay `InBounds`. `History` is a run of such operations with a note on
whether a longname was changed since the index was last built.
-/

namespace RefDoc.Collection

/-! ### What is in a collection -/

@[simp] theorem doclets_push (c : Collection) (d : Doclet) :
    (c.push d).doclets = c.doclets ++ [d] := rfl

@[simp] theorem size_push (c : Collection) (d : Doclet) : (c.push d).size = c.size + 1 := by
  simp [size]

theorem pushAll_cons (c : Collection) (d : Doclet) (ds : List Doclet) :
    c.pushAll (d :: ds) = (c.push d).pushAll ds := rfl

@[simp] theorem doclets_pushAll (c : Collection) (ds : List Doclet) :
    (c.pushAll ds).doclets = c.doclets ++ ds := by
  induction ds generalizing c with
  | nil => simp [pushAll]
  | cons d rest ih => rw [pushAll_cons, ih, doclets_push, List.append_assoc, List.singleton_append]

@[simp] theorem doclets_ofList (ds : List Doclet) : (ofList ds).doclets = ds :=
  doclets_pushAll empty ds

@[simp] theorem doclets_reindex (c : Collection) : c.reindex.doclets = c.doclets := rfl

@[simp] theorem size_modify (c : Collection) (i : Nat) (f : Doclet → Doclet) :
    (c.modify i f).size = c.size := by
  simp [size, modify]

theorem get?_push (c : Collection) (d : Doclet) (i : Nat) :
    (c.push d).get? i = if i = c.size then some d else c.get? i := by
  show (c.doclets ++ [d])[i]? = if i = c.size then some d else c.doclets[i]?
  by_cases last : i = c.size
  · rw [if_pos last, last]
    exact List.getElem?_concat_length
  · rw [if_neg last]
    rcases Nat.lt_or_gt_of_ne last with lt | gt
    · exact List.getElem?_append_left lt
    · rw [List.getElem?_eq_none (Nat.le_of_lt gt)]
      refine List.getElem?_eq_none ?_
      rw [List.length_append, List.length_singleton]
      exact gt

theorem lt_size_of_get? {c : Collection} {i : Nat} {d : Doclet} (h : c.get? i = some d) :
    i < c.size :=
  (List.getElem?_eq_some_iff.1 h).1

/-! ### Exact indices -/

theorem positions_push (c : Collection) (d : Doclet) (longname : String) :
    (c.push d).positions longname =
      if longname = d.longname then c.positions longname ++ [c.size] else c.positions longname := by
  simp only [positions, push, record, Table.get?_insert]
  by_cases h : longname = d.longname
  · subst h
    simp only [if_true, Option.getD_some]
  · simp only [if_neg h]

/-- Every position of the index is one of the collection. -/
def InBounds (c : Collection) : Prop := ∀ longname, ∀ i ∈ c.positions longname, i < c.size

/-- The index lists for every longname the positions of its doclets, in increasing order. -/
structure Exact (c : Collection) : Prop where
  increasing : ∀ longname, (c.positions longname).Pairwise (· < ·)
  mem_iff : ∀ longname i,
    i ∈ c.positions longname ↔ (c.get? i).map (·.longname) = some longname

theorem Exact.inBounds {c : Collection} (h : c.Exact) : c.InBounds := by
  intro longname i hi
  obtain ⟨d, hd, -⟩ := Option.map_eq_some_iff.1 ((h.mem_iff longname i).1 hi)
  exact lt_size_of_get? hd

theorem exact_empty : empty.Exact where
  increasing _ := .nil
  mem_iff _ _ := by simp [empty, positions, get?]

theorem InBounds.push {c : Collection} (h : c.InBounds) (d : Doclet) : (c.push d).InBounds := by
  intro longname i hi
  rw [size_push]
  rw [positions_push] at hi
  split at hi
  · rcases List.mem_append.1 hi with hi | hi
    · exact Nat.lt_succ_of_lt (h longname i hi)
    · exact (List.mem_singleton.1 hi) ▸ Nat.lt_succ_self _
  · exact Nat.lt_succ_of_lt (h longname i hi)

theorem exact_push {c : Collection} (h : c.Exact) (d : Doclet) : (c.push d).Exact where
  increasing longname := by
    rw [positions_push]
    split
    · refine List.pairwise_append.2 ⟨h.increasing longname, List.pairwise_singleton .., ?_⟩
      intro i hi j hj
      rw [List.mem_singleton.1 hj]
      exact h.inBounds longname i hi
    · exact h.increasing longname
  mem_iff longname i := by
    have outside : c.size ∉ c.positions longname := fun hi =>
      Nat.lt_irrefl _ (h.inBounds longname _ hi)
    rw [positions_push, get?_push]
    by_cases last : i = c.size
    · subst last
      by_cases same : longname = d.longname
      · simp [same]
      · simp [same, outside, Ne.symm same]
    · rw [if_neg last, ← h.mem_iff]
      split
      · simp [last]
      · rfl

theorem exact_pushAll {c : Collection} (h : c.Exact) (ds : List Doclet) :
    (c.pushAll ds).Exact := by
  induction ds generalizing c with
  | nil => exact h
  | cons d rest ih => exact ih (exact_push h d)

theorem exact_ofList (ds : List Doclet) : (ofList ds).Exact := exact_pushAll exact_empty ds

/-- To rebuild the index is to build the collection anew. -/
theorem reindex_eq_ofList (c : Collection) : c.reindex = ofList c.doclets := by
  -- Induction on the doclets still to come needs a collection that has some already: its size is
  -- the position the next one gets.
  have step : ∀ (ds : List Doclet) (c : Collection),
      (ds.zipIdx c.size).foldl (fun index e => record index e.1.longname e.2) c.index =
        (c.pushAll ds).index := by
    intro ds
    induction ds with
    | nil => exact fun _ => rfl
    | cons d rest ih =>
      intro c
      rw [pushAll_cons, ← ih (c.push d), size_push]
      rfl
  have index : c.reindex.index = (ofList c.doclets).index := step c.doclets empty
  have doclets : c.reindex.doclets = (ofList c.doclets).doclets := by simp
  cases hr : c.reindex
  cases ho : ofList c.doclets
  simp_all

theorem exact_reindex (c : Collection) : c.reindex.Exact :=
  reindex_eq_ofList c ▸ exact_ofList c.doclets

/-- Exactness depends on the longnames alone. -/
theorem Exact.congr {c c' : Collection} (h : c.Exact) (index : c'.index = c.index)
    (longnames : c'.doclets.map (·.longname) = c.doclets.map (·.longname)) : c'.Exact := by
  have positions : c'.positions = c.positions := by
    unfold Collection.positions
    rw [index]
  have names : ∀ i, (c'.get? i).map (·.longname) = (c.get? i).map (·.longname) := by
    intro i
    simp only [get?, ← List.getElem?_map, longnames]
  exact ⟨fun l => positions ▸ h.increasing l, fun l i => by rw [positions, names, h.mem_iff]⟩

theorem Exact.mapDoclets {c : Collection} (h : c.Exact) {f : Doclet → Doclet}
    (keeps : ∀ d, (f d).longname = d.longname) : (c.mapDoclets f).Exact := by
  refine h.congr rfl ?_
  simp [Collection.mapDoclets, Function.comp_def, keeps]

/-! ### Finding doclets -/

theorem InBounds.byLongname {c : Collection} (h : c.InBounds) (longname : String) :
    (c.byLongname longname).map some = (c.positions longname).map c.get? := by
  have found : ∀ i ∈ c.positions longname, ∃ d, c.get? i = some d := fun i hi =>
    ⟨_, List.getElem?_eq_getElem (h longname i hi)⟩
  unfold Collection.byLongname
  generalize c.positions longname = is at found
  induction is with
  | nil => rfl
  | cons i rest ih =>
    obtain ⟨d, hd⟩ := found i List.mem_cons_self
    rw [List.filterMap_cons_some hd, List.map_cons, List.map_cons, hd,
      ih fun j hj => found j (List.mem_cons_of_mem _ hj)]

/-- The first doclet with that longname. -/
def first? (c : Collection) (longname : String) : Option Doclet :=
  c.doclets.find? (·.longname == longname)

/-- An exact index finds the first doclet first: its least position is the least of all. -/
theorem Exact.head?_byLongname {c : Collection} (h : c.Exact) (longname : String) :
    (c.byLongname longname).head? = c.first? longname := by
  have known := h.mem_iff longname
  cases found : c.first? longname with
  | none =>
    have none : c.positions longname = [] := by
      refine List.eq_nil_iff_forall_not_mem.2 fun i hi => ?_
      obtain ⟨d, hd, same⟩ := Option.map_eq_some_iff.1 ((known i).1 hi)
      exact List.find?_eq_none.1 found d (List.mem_of_getElem? hd) (beq_iff_eq.2 same)
    simp [Collection.byLongname, none]
  | some d =>
    obtain ⟨same, i, hi, rfl, before⟩ := List.find?_eq_some_iff_getElem.1 found
    have listed : i ∈ c.positions longname :=
      (known i).2 (by simp [get?, List.getElem?_eq_getElem hi, beq_iff_eq.1 same])
    have sorted := h.increasing longname
    unfold Collection.byLongname
    cases all : c.positions longname with
    | nil =>
      rw [all] at listed
      cases listed
    | cons j rest =>
      rw [all] at listed sorted
      obtain ⟨e, he, name⟩ := Option.map_eq_some_iff.1 ((known j).1 (all ▸ List.mem_cons_self))
      have least : i = j := by
        rcases List.mem_cons.1 listed with eq | later
        · exact eq
        · have lt := (List.pairwise_cons.1 sorted).1 i later
          obtain ⟨hj, rfl⟩ := List.getElem?_eq_some_iff.1 he
          have := before j lt
          simp [name] at this
      subst least
      rw [List.filterMap_cons_some he, List.head?_cons]
      exact he.symm.trans (List.getElem?_eq_getElem hi)

/-! ### Histories -/

/-- What can be done to a collection. -/
inductive Operation where
  | push (d : Doclet)
  /-- Starts anew from the given doclets. -/
  | build (ds : List Doclet)
  /-- Changes the doclet at a position in any way, its longname too. -/
  | edit (position : Nat) (change : Doclet → Doclet)
  | reindex

/-- What operations have made of a collection that was empty at first. -/
structure History where
  collection : Collection := empty
  /-- Whether a longname was changed since the index was last built. -/
  renamed : Bool := false

namespace History

def apply (h : History) : Operation → History
  | .push d => { h with collection := h.collection.push d }
  | .build ds => ⟨ofList ds, false⟩
  | .edit i change =>
    let edited := h.collection.modify i change
    let longnameAt (c : Collection) := (c.get? i).map (·.longname)
    ⟨edited, h.renamed || longnameAt edited != longnameAt h.collection⟩
  | .reindex => ⟨h.collection.reindex, false⟩

def run (operations : List Operation) : History := operations.foldl apply {}

/-- What holds of every history. -/
structure Sound (h : History) : Prop where
  inBounds : h.collection.InBounds
  exact : h.renamed = false → h.collection.Exact

theorem sound_apply {h : History} (sound : h.Sound) (o : Operation) : (h.apply o).Sound := by
  cases o with
  | push d => exact ⟨sound.inBounds.push d, fun unchanged => exact_push (sound.exact unchanged) d⟩
  | build ds => exact ⟨(exact_ofList ds).inBounds, fun _ => exact_ofList ds⟩
  | reindex => exact ⟨(exact_reindex _).inBounds, fun _ => exact_reindex _⟩
  | edit i change =>
    refine ⟨fun l j hj => ?_, fun unchanged => ?_⟩
    · show j < (h.collection.modify i change).size
      rw [size_modify]
      exact sound.inBounds l j hj
    · simp only [apply, Bool.or_eq_false_iff, bne_eq_false_iff_eq] at unchanged
      refine (sound.exact unchanged.1).congr rfl ?_
      refine List.ext_getElem? fun j => ?_
      rw [List.getElem?_map, List.getElem?_map]
      by_cases here : j = i
      · subst here
        exact unchanged.2
      · show ((h.collection.doclets.modify i change)[j]?).map _ = _
        rw [List.getElem?_modify_ne _ _ (Ne.symm here)]

theorem sound_run (operations : List Operation) : (run operations).Sound := by
  have start : ({} : History).Sound := ⟨exact_empty.inBounds, fun _ => exact_empty⟩
  unfold run
  generalize ({} : History) = h at start
  induction operations generalizing h with
  | nil => exact start
  | cons o rest ih => exact ih _ (sound_apply start o)

end History

end RefDoc.Collection
