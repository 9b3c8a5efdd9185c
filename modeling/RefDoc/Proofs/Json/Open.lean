import Mathlib.Data.List.Nodup
import Mathlib.Data.List.Pairwise
import RefDoc.Proofs.Json.Normal

/-!
# Records that keep other members

An open record has fields, and keeps every other member in a table. What was written of it is read
back (`Written.reads_openRecord`). As long as the fields do not interfere with each other and with
the table (`OpenFields`), the record shows what it was read from: reading the member of a field once
more changes nothing, and any other member is in the table (`OpenFields.rewritten`).
-/

namespace RefDoc.Json

variable {σ α β : Type} {fields : List (RecordField σ)} {keep : String → Json → σ → σ}
  {other : Member Tree → σ → Decoded σ} {extra : σ → Table Json} {title key : String} {blank r : σ}

/-- Keeps a member that is no field. -/
abbrev keeping (keep : String → Json → σ → σ) (m : Member Tree) (s : σ) : Decoded σ :=
  (fun v => keep m.key v s) <$> readJson m.value

theorem find?_eq_none_of_not_mem (unknown : key ∉ fields.map (·.name)) :
    fields.find? (·.name = key) = none :=
  List.find?_eq_none.mpr fun f member same =>
    unknown (List.mem_map.mpr ⟨f, member, of_decide_eq_true same⟩)

/-- The table has no name of a field, and values as they are read. -/
def Foreign (fields : List (RecordField σ)) (t : Table Json) : Prop :=
  ∀ e ∈ t.entries, e.1 ∉ fields.map (·.name) ∧ normal e.2 = e.2

theorem foreign_empty : Foreign fields ∅ := nofun

theorem Foreign.insert {t : Table Json} {v : Json} (foreign : Foreign fields t)
    (unknown : key ∉ fields.map (·.name)) (normal : normal v = v) :
    Foreign fields (t.insert key v) := fun e member => by
  rcases Table.mem_insertEntry member with rfl | member
  · exact ⟨unknown, normal⟩
  · exact foreign e member

theorem Foreign.distinct {t : Table Json} (foreign : Foreign fields t) :
    ∀ e ∈ t.entries, e.2.Distinct := fun e member => by
  rw [← (foreign e member).2]
  exact distinct_normal e.2

/-! ### Written records -/

theorem lookup_ifSome {name : String} {toJson : α → Json} {o : Option α} :
    (ifSome name toJson o).lookup key = if key = name then o.map toJson else none := by
  cases o with
  | none => exact (ite_self _).symm
  | some a => exact Table.lookup_cons_eq ..

namespace Written

/-- Members that are no fields are kept. -/
theorem foldlM_keep {others : List (String × Json)} {members : List (Member Tree)} {p : Partly σ}
    (unknown : ∀ e ∈ others, e.1 ∉ fields.map (·.name))
    (named : List.Forall₂ (fun v m => m.Named v.1) others members)
    (shown : List.Forall₂ (fun v m => Shows v.2 m.value) others members) :
    members.foldlM (readMember fields (keeping keep)) p =
      .ok ⟨p.seen, others.foldl (fun r e => keep e.1 (normal e.2) r) p.record⟩ := by
  induction others generalizing members p with
  | nil =>
    cases named
    rfl
  | cons e others ih =>
    obtain ⟨unknown_e, unknown⟩ := List.forall_mem_cons.mp unknown
    obtain ⟨m, members, ⟨same, clean⟩, named_others, rfl⟩ := List.forall₂_cons_left_iff.mp named
    obtain ⟨shown_m, shown_others⟩ := List.forall₂_cons.mp shown
    have first : readMember fields (keeping keep) p m =
        .ok ⟨p.seen, keep e.1 (normal e.2) p.record⟩ := by
      simp only [readMember, clean, same, find?_eq_none_of_not_mem unknown_e, keeping,
        reads_json e.2 _ shown_m]
      rfl
    rw [List.foldlM_cons, first]
    exact ih unknown named_others shown_others

/-- An open record is read back as it was written, with what it keeps behind its fields. -/
theorem reads_openRecord (ws : List (Written σ)) {members : List (String × Json)} {t : Table Json}
    (made : ws.map field = fields) (different : (fields.map (·.name)).Nodup)
    (written : ws.filterMap member? ++ t.entries = members) (foreign : Foreign fields t)
    (whole : t.entries.foldl (fun r e => keep e.1 e.2 r)
      (ws.foldl (fun r w => w.apply r) blank) = r) :
    Reads (readOpenRecord title fields keep blank) (.object members) r := by
  subst made written
  rintro _ (_ | _ | _ | _ | _ | @⟨_, members, start, stop, named, shown⟩)
  rw [List.map_map] at different
  let n := (ws.filterMap member?).length
  have named_fields := List.forall₂_take n named
  have shown_fields := List.forall₂_take n shown
  have named_others := List.forall₂_drop n named
  have shown_others := List.forall₂_drop n shown
  rw [List.take_left] at named_fields shown_fields
  rw [List.drop_left] at named_others shown_others
  rw [readOpenRecord, ← List.take_append_drop n members]
  refine readMembersOf_written different named_fields shown_fields fun seen => ?_
  rw [foldlM_keep (fun e member => (foreign e member).1) named_others shown_others, ← whole]
  congr 2
  exact List.foldl_ext _ _ _ fun r e member => by rw [(foreign e member).2]

theorem names_sublist (ws : List (Written σ)) :
    ((ws.filterMap member?).map (·.1)).Sublist (ws.map name) := by
  induction ws with
  | nil => exact .slnil
  | cons w ws ih =>
    cases written : w.value with
    | none =>
      have unwritten : w.member? = none := by rw [member?, written]; rfl
      rw [List.filterMap_cons_none unwritten]
      exact .cons _ ih
    | some v =>
      have given : w.member? = some (w.name, v) := by rw [member?, written]; rfl
      rw [List.filterMap_cons_some given]
      exact .cons_cons _ ih

theorem lookup_written (ws : List (Written σ)) {others : List (String × Json)}
    (unknown : key ∉ ws.map name) :
    (ws.filterMap member? ++ others).lookup key = others.lookup key := by
  have none : (ws.filterMap member?).lookup key = none := by
    refine List.lookup_eq_none_iff.mpr fun m member => bne_iff_ne.mpr fun same => unknown ?_
    rw [same]
    exact (names_sublist ws).subset (List.mem_map_of_mem member)
  rw [List.lookup_append, none, Option.none_or]

theorem distinct_openRecord (ws : List (Written σ)) {members : List (String × Json)}
    {t : Table Json} (made : ws.map field = fields) (different : (fields.map (·.name)).Nodup)
    (written : ws.filterMap member? ++ t.entries = members) (foreign : Foreign fields t)
    (values : ∀ m ∈ members, m.2.Distinct) : (Json.object members).Distinct := by
  refine .object ?_ values
  subst made written
  rw [List.map_map] at different
  rw [List.map_append, List.nodup_append]
  refine ⟨(names_sublist ws).nodup different, t.nodup_keys, ?_⟩
  rintro name own _ other rfl
  obtain ⟨e, member, rfl⟩ := List.mem_map.mp other
  refine (foreign e member).1 ?_
  rw [List.map_map]
  exact (names_sublist ws).subset own

end Written

/-! ### Reading -/

namespace RecordField

/-- Reading the field keeps the property. -/
def Keeps (f : RecordField σ) (P : σ → Prop) : Prop := ∀ t s s', f.read t s = .ok s' → P s → P s'

/-- Reading the field once more changes nothing, and neither it nor the table of other members
changes the other. -/
structure Tidy (f : RecordField σ) (keep : String → Json → σ → σ) (extra : σ → Table Json) :
    Prop where
  settles : ∀ t s s', f.read t s = .ok s' → f.read t s' = .ok s'
  aside : ∀ t, f.Keeps (extra · = t)
  beside : ∀ t key v s, f.read t s = .ok s → f.read t (keep key v s) = .ok (keep key v s)

/-- Reading one field leaves alone what was read for the other. -/
structure Apart (f g : RecordField σ) : Prop where
  spared : ∀ t, g.Keeps fun s => f.read t s = .ok s
  sparing : ∀ t, f.Keeps fun s => g.read t s = .ok s

instance : Std.Symm (@Apart σ) := ⟨fun _ _ h => ⟨h.sparing, h.spared⟩⟩

variable {name name' : String} {presence presence' : Presence} {read : Tree → Decoded α}
  {read' : Tree → Decoded β} {set : α → σ → σ} {set' : β → σ → σ}

theorem of_eq_ok {t : Tree} {s s' : σ} :
    (RecordField.of name presence read set).read t s = .ok s' ↔
      ∃ a, read t = .ok a ∧ set a s = s' :=
  Decoded.map_eq_ok

theorem keeps_of {P : σ → Prop} (h : ∀ t a s, read t = .ok a → P s → P (set a s)) :
    (RecordField.of name presence read set).Keeps P := by
  intro t s s' made holds
  obtain ⟨a, read, rfl⟩ := of_eq_ok.mp made
  exact h t a s read holds

theorem tidy_of (again : ∀ a s, set a (set a s) = set a s)
    (aside : ∀ a s, extra (set a s) = extra s)
    (beside : ∀ a key v s, set a (keep key v s) = keep key v (set a s)) :
    (RecordField.of name presence read set).Tidy keep extra where
  settles t s s' made := by
    obtain ⟨a, read, rfl⟩ := of_eq_ok.mp made
    exact of_eq_ok.mpr ⟨a, read, again a s⟩
  aside t := keeps_of fun _ a s _ same => (aside a s).trans same
  beside t key v s same := by
    obtain ⟨a, read, same⟩ := of_eq_ok.mp same
    exact of_eq_ok.mpr ⟨a, read, by rw [beside, same]⟩

theorem keeps_read_of {g : RecordField σ} {t : Tree}
    (h : ∀ a, g.Keeps fun s => set a s = s) :
    g.Keeps fun s => (RecordField.of name presence read set).read t s = .ok s := by
  intro t' s s' made same
  obtain ⟨a, read, same⟩ := of_eq_ok.mp same
  exact of_eq_ok.mpr ⟨a, read, h a t' s s' made same⟩

theorem apart_of (h : ∀ a b s, set a (set' b s) = set' b (set a s)) :
    (RecordField.of name presence read set).Apart (.of name' presence' read' set') := by
  refine ⟨fun t => keeps_read_of fun a => keeps_of fun _ b s _ same => ?_,
    fun t => keeps_read_of fun b => keeps_of fun _ a s _ same => ?_⟩
  · rw [h, same]
  · rw [← h, same]

end RecordField

/-- What reading a member does: a field that was not read before is read, or it is no field. -/
theorem readMember_eq_ok {p p' : Partly σ} {m : Member Tree}
    (read : readMember fields other p m = .ok p') :
    (∃ f ∈ fields, f.name = m.key ∧ m.key ∉ p.seen ∧ f.read m.value p.record = .ok p'.record ∧
      p'.seen = m.key :: p.seen) ∨
    (m.key ∉ fields.map (·.name) ∧ other m p.record = .ok p'.record ∧ p'.seen = p.seen) := by
  rw [readMember] at read
  split at read
  · cases read
  · split at read
    · next f found =>
      split at read
      · cases read
      · next fresh =>
        obtain ⟨record, made, ⟨⟩⟩ := Decoded.bind_eq_ok.mp read
        have named : f.name = m.key := by simpa using List.find?_some found
        exact .inl ⟨f, List.mem_of_find?_eq_some found, named, fresh,
          Decoded.placed_eq_ok.mp made, rfl⟩
    · next missing =>
      obtain ⟨record, made, ⟨⟩⟩ := Decoded.bind_eq_ok.mp read
      refine .inr ⟨fun known => ?_, Decoded.placed_eq_ok.mp made, rfl⟩
      obtain ⟨f, member, same⟩ := List.mem_map.mp known
      exact List.find?_eq_none.mp missing f member (decide_eq_true same)

theorem readMembersOf_eq_ok {members : List (Member Tree)} {ending : Ending}
    (read : readMembersOf fields other blank members ending = .ok r) :
    ∃ seen, members.foldlM (readMember fields other) ⟨[], blank⟩ = .ok ⟨seen, r⟩ := by
  obtain ⟨p, made, read⟩ := Decoded.bind_eq_ok.mp read
  obtain ⟨stop, -, read⟩ := Decoded.bind_eq_ok.mp read
  split at read
  · cases read
  · cases read
    exact ⟨p.seen, made⟩

theorem of_foldlM_readMember {P : Partly σ → Prop} {members : List (Member Tree)}
    {p p' : Partly σ}
    (step : ∀ m p p', readMember fields other p m = .ok p' → P p → P p')
    (read : members.foldlM (readMember fields other) p = .ok p') (start : P p) : P p' := by
  induction members generalizing p with
  | nil =>
    cases read
    exact start
  | cons m members ih =>
    rw [List.foldlM_cons] at read
    obtain ⟨p₁, made, rest⟩ := Decoded.bind_eq_ok.mp read
    exact ih rest (step m p p₁ made start)

/-- What fields and kept members preserve is true of whatever is read. -/
theorem of_readOpenRecord {P : σ → Prop} {t : Tree} (fields_keep : ∀ f ∈ fields, f.Keeps P)
    (others_keep : ∀ key v s, key ∉ fields.map (·.name) → normal v = v → P s → P (keep key v s))
    (start : P blank) (read : readOpenRecord title fields keep blank t = .ok r) : P r := by
  cases t with
  | object _ members ending =>
    obtain ⟨seen, made⟩ := readMembersOf_eq_ok read
    refine of_foldlM_readMember (P := fun p => P p.record) (fun m p p' step holds => ?_) made start
    rcases readMember_eq_ok step with ⟨f, member, -, -, made, -⟩ | ⟨unknown, made, -⟩
    · exact fields_keep f member _ _ _ made holds
    · obtain ⟨v, read, same⟩ := Decoded.map_eq_ok.mp made
      rw [← same]
      exact others_keep m.key v p.record unknown (normal_of_readJson read) holds
  | _ => cases read

/-- The fields of an open record and the table of its other members do not interfere. -/
structure OpenFields (fields : List (RecordField σ)) (keep : String → Json → σ → σ)
    (extra : σ → Table Json) : Prop where
  different : (fields.map (·.name)).Nodup
  tidy : ∀ f ∈ fields, f.Tidy keep extra
  apart : fields.Pairwise RecordField.Apart
  kept : ∀ key v s, extra (keep key v s) = (extra s).insert key v

namespace OpenFields

variable {members : List (String × Json)} {p p' : Partly σ} {f : RecordField σ}

theorem keeps_read (laws : OpenFields fields keep extra) {g : RecordField σ} (field : f ∈ fields)
    (other : g ∈ fields) (differs : g.name ≠ f.name) (t : Tree) :
    g.Keeps fun s => f.read t s = .ok s :=
  (laws.apart.forall field other fun same => differs (same ▸ rfl)).spared t

theorem eq_of_name (laws : OpenFields fields keep extra) {g : RecordField σ} (field : f ∈ fields)
    (other : g ∈ fields) (same : g.name = f.name) : g = f :=
  List.inj_on_of_nodup_map laws.different other field same

/-- What a field was read from stays so: no other field touches it, and the field is not read
twice. -/
theorem settled_foldlM (laws : OpenFields fields keep extra) (field : f ∈ fields) {t : Tree}
    {members : List (Member Tree)} (seen : f.name ∈ p.seen)
    (holds : f.read t p.record = .ok p.record)
    (read : members.foldlM (readMember fields (keeping keep)) p = .ok p') :
    f.read t p'.record = .ok p'.record := by
  refine (of_foldlM_readMember
    (P := fun p => f.name ∈ p.seen ∧ f.read t p.record = .ok p.record)
    (fun m p p' step ⟨seen, holds⟩ => ?_) read ⟨seen, holds⟩).2
  rcases readMember_eq_ok step with ⟨g, other, name, fresh, made, all⟩ | ⟨-, made, all⟩
  · have differs : g.name ≠ f.name := fun same => fresh (name ▸ same ▸ seen)
    exact ⟨all ▸ List.mem_cons_of_mem _ seen,
      laws.keeps_read field other differs t _ _ _ made holds⟩
  · obtain ⟨v, -, same⟩ := Decoded.map_eq_ok.mp made
    rw [← same]
    exact ⟨all ▸ seen, (laws.tidy f field).beside t m.key v p.record holds⟩

theorem settled_members (laws : OpenFields fields keep extra) (field : f ∈ fields) {v : Json}
    (given : members.lookup f.name = some v)
    (read : (Tree.ofMembers members).foldlM (readMember fields (keeping keep)) p = .ok p') :
    f.read (.ofJson v) p'.record = .ok p'.record := by
  induction members generalizing p with
  | nil => cases given
  | cons m members ih =>
    obtain ⟨key, first⟩ := m
    rw [Tree.ofMembers, List.foldlM_cons] at read
    obtain ⟨p₁, made, rest⟩ := Decoded.bind_eq_ok.mp read
    rw [Table.lookup_cons_eq] at given
    split at given
    · next own =>
      cases given
      rcases readMember_eq_ok made with ⟨g, other, name, -, made, all⟩ | ⟨unknown, -, -⟩
      · obtain rfl := laws.eq_of_name field other (name.trans own.symm)
        refine laws.settled_foldlM field ?_ ((laws.tidy g field).settles _ _ _ made) rest
        rw [all, own]
        exact List.mem_cons_self
      · exact absurd (List.mem_map.mpr ⟨f, field, own⟩) unknown
    · exact ih given rest

theorem get?_members (laws : OpenFields fields keep extra) (unknown : key ∉ fields.map (·.name))
    (read : (Tree.ofMembers members).foldlM (readMember fields (keeping keep)) p = .ok p') :
    (extra p'.record).get? key =
      ((members.reverse.lookup key).map normal).or ((extra p.record).get? key) := by
  induction members generalizing p with
  | nil =>
    cases read
    rfl
  | cons m members ih =>
    obtain ⟨name, v⟩ := m
    rw [Tree.ofMembers, List.foldlM_cons] at read
    obtain ⟨p₁, made, rest⟩ := Decoded.bind_eq_ok.mp read
    have first : (extra p₁.record).get? key =
        ((List.lookup key [(name, v)]).map normal).or ((extra p.record).get? key) := by
      rw [Table.lookup_cons_eq, List.lookup_nil]
      rcases readMember_eq_ok made with ⟨g, field, own, -, made, -⟩ | ⟨-, made, -⟩
      · have differs : ¬ key = name := fun same =>
          unknown (List.mem_map.mpr ⟨g, field, own.trans same.symm⟩)
        rw [if_neg differs, (laws.tidy g field).aside _ _ _ _ made rfl]
        rfl
      · obtain ⟨v', read, same⟩ := Decoded.map_eq_ok.mp made
        obtain rfl := Except.ok.inj ((readJson_ofJson v).symm.trans read)
        rw [← same, laws.kept, Table.get?_insert]
        split <;> rfl
    rw [ih rest, first, List.reverse_cons, List.lookup_append, Option.map_or, Option.or_assoc]

end OpenFields

/-- What becomes of the members of an object from which the record was read: each that names a field
gave the field what it has, and any other is kept and written again. -/
structure Rewritten (fields : List (RecordField σ)) (extra : σ → Table Json) (toJson : σ → Json)
    (members : List (String × Json)) (r : σ) : Prop where
  /-- The member of a field, read once more, changes nothing. -/
  known : ∀ f ∈ fields, ∀ v, members.lookup f.name = some v → f.read (.ofJson v) r = .ok r
  /-- The last member of any other name is kept. -/
  unknown : ∀ key ∉ fields.map (·.name),
    (extra r).get? key = ((Table.ofList members).get? key).map normal ∧
      (toJson r).member? key = (extra r).get? key

/-- Open records are read from objects, whose members all are in what is written again. -/
theorem OpenFields.rewritten (laws : OpenFields fields keep extra) {toJson : σ → Json} {v : Json}
    {ws : List (Written σ)} (made : ws.map Written.field = fields)
    (written : toJson r = .object (ws.filterMap Written.member? ++ (extra r).entries))
    (empty : extra blank = ∅) (read : decode (readOpenRecord title fields keep blank) v = .ok r) :
    ∃ members, v = .object members ∧ Rewritten fields extra toJson members r := by
  have read := Decoded.decode_eq_ok.mp read
  cases v with
  | object members =>
    rw [Tree.ofJson] at read
    obtain ⟨seen, folded⟩ := readMembersOf_eq_ok read
    refine ⟨members, rfl, fun f field v given => laws.settled_members field given folded,
      fun key unknown => ⟨?_, ?_⟩⟩
    · rw [laws.get?_members unknown folded, empty, Table.get?_ofList, Table.get?_empty,
        Option.or_none]
    · have foreign : key ∉ ws.map Written.name := by
        rw [← made, List.map_map] at unknown
        exact unknown
      rw [written, member?, Written.lookup_written ws foreign, Table.get?]
  | _ => cases read

end RefDoc.Json
