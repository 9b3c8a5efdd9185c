/-!
# Tables

Finite maps from names to values, kept as entries in increasing order of their names. Two tables
with the same entries are equal, and every listing of a table is in that order.
-/

namespace RefDoc

structure Table (α : Type) where
  entries : List (String × α)
  sorted : entries.Pairwise (·.1 < ·.1)
  deriving DecidableEq

namespace Table

variable {α β : Type}

def empty : Table α := ⟨[], .nil⟩

instance : EmptyCollection (Table α) := ⟨empty⟩
instance : Inhabited (Table α) := ⟨empty⟩

instance [Repr α] : Repr (Table α) := ⟨fun t n => reprPrec t.entries n⟩

def get? (t : Table α) (name : String) : Option α := t.entries.lookup name

def contains (t : Table α) (name : String) : Bool := (t.get? name).isSome

def keys (t : Table α) : List String := t.entries.map (·.1)

def size (t : Table α) : Nat := t.entries.length

def isEmpty (t : Table α) : Bool := t.entries.isEmpty

/-- The entry for `name` goes to its place; one that is there already is replaced. -/
def insertEntry (name : String) (value : α) : List (String × α) → List (String × α)
  | [] => [(name, value)]
  | (other, old) :: rest =>
    if name < other then (name, value) :: (other, old) :: rest
    else if name = other then (name, value) :: rest
    else (other, old) :: insertEntry name value rest

theorem mem_insertEntry {name : String} {value : α} {l : List (String × α)} {e : String × α}
    (h : e ∈ insertEntry name value l) : e = (name, value) ∨ e ∈ l := by
  induction l with
  | nil => simpa [insertEntry] using h
  | cons head rest ih =>
    obtain ⟨other, old⟩ := head
    simp only [insertEntry] at h
    split at h
    · simpa using h
    · split at h
      · rcases List.mem_cons.1 h with h | h
        · exact .inl h
        · exact .inr (List.mem_cons_of_mem _ h)
      · rcases List.mem_cons.1 h with h | h
        · exact .inr (h ▸ List.mem_cons_self)
        · exact (ih h).imp_right (List.mem_cons_of_mem _)

theorem sorted_insertEntry (name : String) (value : α) {l : List (String × α)}
    (h : l.Pairwise (·.1 < ·.1)) : (insertEntry name value l).Pairwise (·.1 < ·.1) := by
  induction l with
  | nil => simp [insertEntry]
  | cons head rest ih =>
    obtain ⟨other, old⟩ := head
    have hrest := (List.pairwise_cons.1 h)
    simp only [insertEntry]
    split
    · next lt =>
      refine List.pairwise_cons.2 ⟨fun e he => ?_, h⟩
      rcases List.mem_cons.1 he with he | he
      · exact he ▸ lt
      · exact String.lt_trans lt (hrest.1 e he)
    · next notLt =>
      split
      · next eq =>
        subst eq
        exact List.pairwise_cons.2 ⟨fun e he => hrest.1 e he, hrest.2⟩
      · next ne =>
        have gt : other < name :=
          Decidable.byContradiction fun h =>
            ne (String.le_antisymm (String.not_lt.1 h) (String.not_lt.1 notLt))
        refine List.pairwise_cons.2 ⟨fun e he => ?_, ih hrest.2⟩
        rcases mem_insertEntry he with he | he
        · exact he ▸ gt
        · exact hrest.1 e he

def insert (t : Table α) (name : String) (value : α) : Table α :=
  ⟨insertEntry name value t.entries, sorted_insertEntry name value t.sorted⟩

def map (f : α → β) (t : Table α) : Table β :=
  ⟨t.entries.map fun e => (e.1, f e.2), List.pairwise_map.2 t.sorted⟩

/-- Later entries replace earlier ones of the same name. -/
def ofList (l : List (String × α)) : Table α :=
  l.foldl (fun t e => t.insert e.1 e.2) empty

/-- All entries of both; where both have a name, `t` decides. -/
def union (t lower : Table α) : Table α :=
  t.entries.foldl (fun out e => out.insert e.1 e.2) lower

/-- How many names of the table are not among `taken`. -/
def sizeWithout (t : Table α) (taken : List String) : Nat := (t.keys.filter (· ∉ taken)).length

theorem mem_keys_of_get? {t : Table α} {name : String} {value : α}
    (h : t.get? name = some value) : name ∈ t.keys := by
  obtain ⟨entries, sorted⟩ := t
  simp only [Table.get?, Table.keys] at *
  clear sorted
  induction entries with
  | nil => simp at h
  | cons e rest ih =>
    rw [List.lookup_cons] at h
    split at h
    · next same => simp [beq_iff_eq.1 same]
    · exact List.mem_cons_of_mem _ (ih h)

theorem sizeWithout_cons_lt {t : Table α} {taken : List String} {name : String}
    (known : name ∈ t.keys) (fresh : name ∉ taken) :
    t.sizeWithout (name :: taken) < t.sizeWithout taken := by
  simp only [sizeWithout, ← List.countP_eq_length_filter]
  generalize t.keys = l at known
  have le (l : List String) : l.countP (· ∉ name :: taken) ≤ l.countP (· ∉ taken) :=
    List.countP_mono_left fun x _ h => by simp_all
  induction l with
  | nil => simp at known
  | cons x rest ih =>
    rw [List.countP_cons, List.countP_cons]
    by_cases hx : x = name
    · have := le rest
      have here : decide (x ∉ name :: taken) = false := by simp [hx]
      have there : decide (x ∉ taken) = true := by simp [hx, fresh]
      rw [here, there]
      simp only [Bool.false_eq_true, if_false, if_true]
      omega
    · have := ih ((List.mem_cons.1 known).resolve_left (Ne.symm hx))
      have same : decide (x ∉ name :: taken) = decide (x ∉ taken) := by simp [hx]
      rw [same]
      omega

end Table

end RefDoc
