import RefDoc.Table
import Mathlib.Data.List.Induction

/-!
# Looking up in tables

What a table says after an insertion, and where the value of a name comes from.
-/

namespace RefDoc.Table

variable {α : Type}

theorem lookup_cons_eq (other key : String) (old : α) (rest : List (String × α)) :
    ((key, old) :: rest).lookup other = if other = key then some old else rest.lookup other := by
  rw [List.lookup_cons]
  split
  · next same => rw [if_pos (beq_iff_eq.1 same)]
  · next differs => rw [if_neg (beq_eq_false_iff_ne.1 differs)]

theorem lookup_insertEntry (name : String) (value : α) (other : String) (l : List (String × α)) :
    (insertEntry name value l).lookup other =
      if other = name then some value else l.lookup other := by
  induction l with
  | nil => simp only [insertEntry, lookup_cons_eq]
  | cons head rest ih =>
    obtain ⟨key, old⟩ := head
    simp only [insertEntry]
    split
    · rw [lookup_cons_eq]
    · split
      · next same =>
        subst same
        simp only [lookup_cons_eq]
        by_cases h : other = name <;> simp only [h, if_true, if_false]
      · next ne =>
        rw [lookup_cons_eq, lookup_cons_eq, ih]
        by_cases h : other = name
        · subst h
          rw [if_neg ne, if_pos rfl, if_pos rfl]
        · rw [if_neg h, if_neg h]

@[simp] theorem get?_empty (name : String) : (∅ : Table α).get? name = none := rfl

theorem get?_insert (t : Table α) (name : String) (value : α) (other : String) :
    (t.insert name value).get? other = if other = name then some value else t.get? other :=
  lookup_insertEntry name value other t.entries

theorem mem_entries_of_get? {t : Table α} {name : String} {value : α}
    (h : t.get? name = some value) : (name, value) ∈ t.entries := by
  obtain ⟨entries, sorted⟩ := t
  simp only [get?] at h ⊢
  clear sorted
  induction entries with
  | nil => simp at h
  | cons e rest ih =>
    rw [List.lookup_cons] at h
    split at h
    · next same =>
      cases h
      rw [beq_iff_eq.1 same]
      exact List.mem_cons_self
    · exact List.mem_cons_of_mem _ (ih h)

theorem get?_eq_some_iff {t : Table α} {name : String} {value : α} :
    t.get? name = some value ↔ (name, value) ∈ t.entries := by
  refine ⟨mem_entries_of_get?, fun member => ?_⟩
  obtain ⟨entries, sorted⟩ := t
  simp only [get?] at member ⊢
  induction entries with
  | nil => cases member
  | cons e rest ih =>
    obtain ⟨first, rest_sorted⟩ := List.pairwise_cons.mp sorted
    obtain ⟨key, old⟩ := e
    rw [lookup_cons_eq]
    rcases List.mem_cons.mp member with same | later
    · cases same
      rw [if_pos rfl]
    · have differs : name ≠ key := fun same => String.lt_irrefl _ (same ▸ first _ later)
      rw [if_neg differs, ih rest_sorted later]

theorem mem_keys {t : Table α} {name : String} :
    name ∈ t.keys ↔ ∃ value, t.get? name = some value := by
  simp [keys, get?_eq_some_iff]

theorem contains_iff {t : Table α} {name : String} : t.contains name = true ↔ name ∈ t.keys := by
  rw [contains, Option.isSome_iff_exists, mem_keys]

theorem pairwise_keys (t : Table α) : t.keys.Pairwise (· < ·) := List.pairwise_map.mpr t.sorted

theorem nodup_keys (t : Table α) : t.keys.Nodup := by
  refine t.pairwise_keys.imp fun {name other} lt => ?_
  rintro rfl
  exact String.lt_irrefl _ lt

theorem eq_of_get? {t t' : Table α} (same : ∀ name, t.get? name = t'.get? name) : t = t' := by
  have entry (e : String × α) : e ∈ t.entries ↔ e ∈ t'.entries := by
    rw [← get?_eq_some_iff, ← get?_eq_some_iff, same]
  have once (t : Table α) : t.entries.Nodup := by
    refine t.sorted.imp fun {e e'} lt => ?_
    rintro rfl
    exact String.lt_irrefl _ lt
  have perm : t.entries.Perm t'.entries :=
    (List.perm_ext_iff_of_nodup (once t) (once t')).mpr entry
  have all : t.entries = t'.entries :=
    perm.eq_of_pairwise (fun _ _ _ _ lt gt => absurd gt (String.lt_asymm lt)) t.sorted t'.sorted
  cases t
  cases t'
  cases all
  rfl

theorem keys_insert {t : Table α} {name : String} (known : name ∈ t.keys) (value : α) :
    (t.insert name value).keys = t.keys := by
  obtain ⟨entries, sorted⟩ := t
  simp only [keys, insert] at known ⊢
  induction entries with
  | nil => cases known
  | cons e rest ih =>
    obtain ⟨first, rest_sorted⟩ := List.pairwise_cons.mp sorted
    obtain ⟨key, old⟩ := e
    rw [insertEntry]
    by_cases same : name = key
    · subst same
      simp
    · have later : name ∈ rest.map (·.1) := (List.mem_cons.mp known).resolve_left same
      have after : ¬ name < key := by
        obtain ⟨e, member, rfl⟩ := List.mem_map.mp later
        exact String.not_lt.mpr (Std.le_of_lt (first e member))
      simp only [if_neg after, if_neg same, List.map_cons, ih rest_sorted later]

/-- What a table built from a list has for a name stands in the list. -/
theorem mem_of_get?_ofList {l : List (String × α)} {name : String} {value : α}
    (h : (ofList l).get? name = some value) : (name, value) ∈ l := by
  have grown : ∀ (l : List (String × α)) (t : Table α) (e : String × α),
      e ∈ (l.foldl (fun t e => t.insert e.1 e.2) t).entries → e ∈ t.entries ∨ e ∈ l := by
    intro l
    induction l with
    | nil => exact fun t e he => .inl he
    | cons head rest ih =>
      intro t e he
      rcases ih _ _ he with he | he
      · rcases mem_insertEntry he with rfl | he
        · exact .inr List.mem_cons_self
        · exact .inl he
      · exact .inr (List.mem_cons_of_mem _ he)
  rcases grown l empty _ (mem_entries_of_get? h) with h | h
  · cases h
  · exact h

/-! ### Tables built from lists -/

theorem ofList_concat (l : List (String × α)) (e : String × α) :
    ofList (l ++ [e]) = (ofList l).insert e.1 e.2 := by
  simp only [ofList, List.foldl_append, List.foldl_cons, List.foldl_nil]

/-- The last entry of a name counts. -/
theorem get?_ofList (l : List (String × α)) (name : String) :
    (ofList l).get? name = l.reverse.lookup name := by
  induction l using List.reverseRecOn with
  | nil => rfl
  | append_singleton l e ih =>
    rw [ofList_concat, get?_insert, ih, List.reverse_append, List.reverse_singleton,
      List.singleton_append, lookup_cons_eq]

theorem mem_keys_ofList {l : List (String × α)} {name : String} :
    name ∈ (ofList l).keys ↔ name ∈ l.map (·.1) := by
  induction l using List.reverseRecOn with
  | nil => rfl
  | append_singleton l e ih =>
    simp only [mem_keys] at ih ⊢
    rw [ofList_concat, List.map_append, List.mem_append, List.map_singleton, List.mem_singleton,
      ← ih]
    simp only [get?_insert]
    by_cases same : name = e.1
    · simp only [same, if_true, or_true, iff_true]
      exact ⟨e.2, rfl⟩
    · simp only [same, if_false, or_false]

theorem insertEntry_last {name : String} {value : α} {l : List (String × α)}
    (last : ∀ e ∈ l, e.1 < name) : insertEntry name value l = l ++ [(name, value)] := by
  induction l with
  | nil => rfl
  | cons head rest ih =>
    obtain ⟨first, last⟩ := List.forall_mem_cons.mp last
    have after : ¬ name < head.1 := String.lt_asymm first
    have other : ¬ name = head.1 := fun same => String.lt_irrefl _ (same ▸ first)
    rw [insertEntry, if_neg after, if_neg other, ih last, List.cons_append]

theorem entries_ofList {l : List (String × α)} (sorted : l.Pairwise (·.1 < ·.1)) :
    (ofList l).entries = l := by
  induction l using List.reverseRecOn with
  | nil => rfl
  | append_singleton l e ih =>
    obtain ⟨sorted, -, last⟩ := List.pairwise_append.mp sorted
    rw [ofList_concat]
    show insertEntry e.1 e.2 (ofList l).entries = l ++ [e]
    rw [ih sorted, insertEntry_last fun other member => last other member e List.mem_cons_self]

theorem ofList_entries (t : Table α) : ofList t.entries = t := by
  have same := entries_ofList t.sorted
  generalize ofList t.entries = t' at same
  cases t
  cases t'
  cases same
  rfl

/-! ### Unions -/

/-- By induction on what is put on top, from its end: the last value of a name counts. -/
theorem get?_foldl_insert (l : List (String × α)) (lower : Table α) (name : String) :
    (l.foldl (fun out e => out.insert e.1 e.2) lower).get? name =
      ((ofList l).get? name).or (lower.get? name) := by
  induction l using List.reverseRecOn with
  | nil => rfl
  | append_singleton l e ih =>
    rw [List.foldl_append, List.foldl_cons, List.foldl_nil, get?_insert, ih, ofList_concat,
      get?_insert]
    by_cases same : name = e.1
    · rw [if_pos same, if_pos same, Option.some_or]
    · rw [if_neg same, if_neg same]

theorem get?_union (t lower : Table α) (name : String) :
    (t.union lower).get? name = (t.get? name).or (lower.get? name) := by
  rw [union, get?_foldl_insert, ofList_entries]

theorem union_assoc (t t' t'' : Table α) : (t.union t').union t'' = t.union (t'.union t'') :=
  eq_of_get? fun name => by simp only [get?_union, Option.or_assoc]

theorem union_self (t : Table α) : t.union t = t :=
  eq_of_get? fun name => by rw [get?_union, Option.or_self]

end RefDoc.Table
