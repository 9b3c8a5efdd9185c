import RefDoc.Proofs.Json.Shown
import RefDoc.Proofs.Table

/-!
# Normal values

A value of which nothing is known is read with the members of its objects by name, the last of a
name being kept. Such a value names no member twice (`distinct_normal`), and reading it again
changes nothing (`normal_normal`).
-/

namespace RefDoc.Json

/-- No object names a member twice. -/
inductive Distinct : Json → Prop where
  | null : Distinct .null
  | bool (b : Bool) : Distinct (.bool b)
  | number (n : Number) : Distinct (.number n)
  | string (s : String) : Distinct (.string s)
  | array {values : List Json} : (∀ v ∈ values, Distinct v) → Distinct (.array values)
  | object {members : List (String × Json)} :
      (members.map (·.1)).Nodup → (∀ m ∈ members, Distinct m.2) → Distinct (.object members)

theorem distinct_strings (l : List String) : (strings l).Distinct :=
  .array (List.forall_mem_map.mpr fun s _ => .string s)

theorem distinct_paths (l : List Path) : (Json.array (l.map ofPath)).Distinct :=
  .array (List.forall_mem_map.mpr fun p _ => .string p.text)

mutual

theorem distinct_normal : ∀ v : Json, (normal v).Distinct
  | .null => .null
  | .bool b => .bool b
  | .number n => .number n
  | .string s => .string s
  | .array items => .array (distinct_normalItems items)
  | .object members => by
    refine .object (Table.nodup_keys (.ofList (normalMembers members))) fun m member => ?_
    exact distinct_normalMembers members m
      (Table.mem_of_get?_ofList (Table.get?_eq_some_iff.mpr member))

theorem distinct_normalItems : ∀ items : List Json, ∀ v ∈ normalItems items, v.Distinct
  | [] => nofun
  | v :: rest => List.forall_mem_cons.mpr ⟨distinct_normal v, distinct_normalItems rest⟩

theorem distinct_normalMembers : ∀ members : List (String × Json),
    ∀ m ∈ normalMembers members, m.2.Distinct
  | [] => nofun
  | (_, v) :: rest => List.forall_mem_cons.mpr ⟨distinct_normal v, distinct_normalMembers rest⟩

end

theorem normalItems_eq {items : List Json} (same : ∀ v ∈ items, normal v = v) :
    normalItems items = items := by
  induction items with
  | nil => rfl
  | cons v rest ih =>
    obtain ⟨first, same⟩ := List.forall_mem_cons.mp same
    rw [normalItems, first, ih same]

theorem normalMembers_eq {members : List (String × Json)} (same : ∀ m ∈ members, normal m.2 = m.2) :
    normalMembers members = members := by
  induction members with
  | nil => rfl
  | cons m rest ih =>
    obtain ⟨first, same⟩ := List.forall_mem_cons.mp same
    rw [normalMembers, first, ih same]

mutual

/-- **Reading what was read changes nothing.** -/
theorem normal_normal : ∀ v : Json, normal (normal v) = normal v
  | .null | .bool _ | .number _ | .string _ => by simp only [normal]
  | .array items => by
    rw [normal, normal, normalItems_eq (normal_normalItems items)]
  | .object members => by
    have same : ∀ m ∈ (Table.ofList (normalMembers members)).entries, normal m.2 = m.2 :=
      fun m member => normal_normalMembers members m
        (Table.mem_of_get?_ofList (Table.get?_eq_some_iff.mpr member))
    rw [normal, ofTable, normal, normalMembers_eq same, Table.ofList_entries, ofTable]

theorem normal_normalItems : ∀ items : List Json, ∀ v ∈ normalItems items, normal v = v
  | [] => nofun
  | v :: rest => List.forall_mem_cons.mpr ⟨normal_normal v, normal_normalItems rest⟩

theorem normal_normalMembers : ∀ members : List (String × Json),
    ∀ m ∈ normalMembers members, normal m.2 = m.2
  | [] => nofun
  | (_, v) :: rest => List.forall_mem_cons.mpr ⟨normal_normal v, normal_normalMembers rest⟩

end

/-! ### Reading any value -/

mutual

theorem raw_of_shows : ∀ (v : Json) {t : Tree}, Shows v t → t.raw = .ok v
  | .null, _, shown | .bool _, _, shown | .number _, _, shown | .string _, _, shown => by
    cases shown
    rfl
  | .array values, _, shown => by
    obtain - | - | - | - | ⟨start, stop, shown⟩ := shown
    rw [Tree.raw, rawItems_of_shows values shown]
    rfl
  | .object values, _, shown => by
    obtain - | - | - | - | - | ⟨start, stop, named, shown⟩ := shown
    rw [Tree.raw, rawMembers_of_shows values named shown]
    rfl

theorem rawItems_of_shows : ∀ (values : List Json) {items : List (Item Tree)},
    List.Forall₂ (fun v i => Shows v i.value) values items → Tree.rawItems items = .ok values
  | [], _, shown => by
    cases shown
    rfl
  | v :: values, _, shown => by
    obtain ⟨i, items, first, others, rfl⟩ := List.forall₂_cons_left_iff.mp shown
    rw [Tree.rawItems, raw_of_shows v first, rawItems_of_shows values others]
    rfl

theorem rawMembers_of_shows : ∀ (values : List (String × Json)) {members : List (Member Tree)},
    List.Forall₂ (fun v m => m.Named v.1) values members →
    List.Forall₂ (fun v m => Shows v.2 m.value) values members →
    Tree.rawMembers members = .ok values
  | [], _, _, shown => by
    cases shown
    rfl
  | (key, v) :: values, _, named, shown => by
    obtain ⟨m, members, ⟨rfl, clean⟩, named_others, rfl⟩ := List.forall₂_cons_left_iff.mp named
    obtain ⟨first, others⟩ := List.forall₂_cons.mp shown
    rw [Tree.rawMembers, raw_of_shows v first, rawMembers_of_shows values named_others others,
      clean]
    rfl

end

theorem reads_json (v : Json) : Reads readJson v (normal v) := fun t shown => by
  rw [readJson, raw_of_shows v shown]
  rfl

theorem readJson_ofJson (v : Json) : readJson (.ofJson v) = .ok (normal v) :=
  reads_json v _ (shows_ofJson v)

/-! ### What was read without an error -/

namespace Decoded

variable {α β : Type} {f : α → β} {g : α → Decoded β} {x : Decoded α} {b : β}

theorem map_eq_ok : f <$> x = .ok b ↔ ∃ a, x = .ok a ∧ f a = b := by
  cases x with
  | error e => exact ⟨nofun, fun ⟨_, h, _⟩ => nomatch h⟩
  | ok a =>
    constructor
    · rintro ⟨⟩
      exact ⟨a, rfl, rfl⟩
    · rintro ⟨_, ⟨⟩, rfl⟩
      rfl

theorem bind_eq_ok : (x >>= g) = .ok b ↔ ∃ a, x = .ok a ∧ g a = .ok b := by
  cases x with
  | error e => exact ⟨nofun, fun ⟨_, h, _⟩ => nomatch h⟩
  | ok a =>
    constructor
    · exact fun h => ⟨a, rfl, h⟩
    · rintro ⟨_, ⟨⟩, h⟩
      exact h

theorem placed_eq_ok {mark : Mark} {a : α} : x.placed mark = .ok a ↔ x = .ok a := by
  cases x with
  | error e => exact ⟨nofun, nofun⟩
  | ok a => exact Iff.rfl

theorem decode_eq_ok {read : Tree → Decoded α} {v : Json} {a : α} :
    decode read v = .ok a ↔ read (.ofJson v) = .ok a := by
  rw [decode]
  cases read (.ofJson v) with
  | error e =>
    constructor
    · intro made
      cases made
    · intro made
      cases made
  | ok a =>
    constructor
    · intro made
      cases made
      rfl
    · intro made
      cases made
      rfl

end Decoded

theorem readOption_eq_none {α : Type} {read : Tree → Decoded α} {t : Tree}
    (made : readOption read t = .ok none) : ∃ stop, t = .scalar .null stop := by
  unfold readOption at made
  split at made
  · next stop => exact ⟨stop, rfl⟩
  · obtain ⟨_, -, ⟨⟩⟩ := Decoded.map_eq_ok.mp made

theorem eq_null_of_ofJson {v : Json} (same : ∃ stop, Tree.ofJson v = .scalar .null stop) :
    v = .null := by
  obtain ⟨stop, same⟩ := same
  cases v <;> first | rfl | cases same

theorem readOption_eq_some {α : Type} {read : Tree → Decoded α} {t : Tree} {a : α}
    (made : readOption read t = .ok (some a)) :
    (∀ stop, t ≠ .scalar .null stop) ∧ read t = .ok a := by
  unfold readOption at made
  split at made
  · cases made
  · next given =>
    obtain ⟨_, read, ⟨⟩⟩ := Decoded.map_eq_ok.mp made
    exact ⟨fun stop same => given stop same, read⟩

/-- What is read is normal. -/
theorem normal_of_readJson {t : Tree} {v : Json} (read : readJson t = .ok v) : normal v = v := by
  obtain ⟨v', -, rfl⟩ := Decoded.map_eq_ok.mp read
  exact normal_normal v'

/-- Only what stands for nothing is read as nothing. -/
theorem eq_null_of_readJson {t : Tree} (read : readJson t = .ok .null) :
    ∃ stop, t = .scalar .null stop := by
  obtain ⟨v, raw, same⟩ := Decoded.map_eq_ok.mp read
  obtain rfl : v = .null := by cases v <;> first | rfl | simp [normal, ofTable] at same
  cases t with
  | scalar v stop =>
    cases v with
    | null => exact ⟨stop, rfl⟩
    | _ => cases raw
  | array =>
    rw [Tree.raw] at raw
    obtain ⟨values, -, raw⟩ := Decoded.bind_eq_ok.mp raw
    obtain ⟨stop, -, ⟨⟩⟩ := Decoded.bind_eq_ok.mp raw
  | object =>
    rw [Tree.raw] at raw
    obtain ⟨values, -, raw⟩ := Decoded.bind_eq_ok.mp raw
    obtain ⟨stop, -, ⟨⟩⟩ := Decoded.bind_eq_ok.mp raw
  | _ => cases raw

end RefDoc.Json
