import Mathlib.Data.List.Forall2
import RefDoc.Json.Encode

/-!
# Trees that show values

A tree shows a value if it has the value's shape and no faults, whatever its marks. What a decoder
makes of all trees that show a value (`Reads`) is what it makes of the value, be it read from a text
or not. A record is read field by field: `Written` is one field with what the encoder made of it.
-/

namespace RefDoc.Json

/-- The member has the name, and nothing is wrong with its key. -/
def Member.Named (name : String) (m : Member Tree) : Prop := m.key = name ∧ m.keyFault = none

/-- The tree has the shape of the value, without faults. -/
inductive Shows : Json → Tree → Prop where
  | null (stop : Mark) : Shows .null (.scalar .null stop)
  | bool {b : Bool} (stop : Mark) : Shows (.bool b) (.scalar (.bool b) stop)
  | number {n : Number} (stop : Mark) : Shows (.number n) (.scalar (.number n) stop)
  | string {s : String} (stop : Mark) : Shows (.string s) (.scalar (.string s) stop)
  | array {values : List Json} {items : List (Item Tree)} (start stop : Mark)
      (shown : List.Forall₂ (fun v i => Shows v i.value) values items) :
      Shows (.array values) (.array start items (.closed stop))
  | object {values : List (String × Json)} {members : List (Member Tree)} (start stop : Mark)
      (named : List.Forall₂ (fun v m => m.Named v.1) values members)
      (shown : List.Forall₂ (fun v m => Shows v.2 m.value) values members) :
      Shows (.object values) (.object start members (.closed stop))

theorem named_ofMembers (values : List (String × Json)) :
    List.Forall₂ (fun v m => m.Named v.1) values (Tree.ofMembers values) := by
  induction values with
  | nil => exact .nil
  | cons v values ih => exact .cons ⟨rfl, rfl⟩ ih

mutual

theorem shows_ofJson : (v : Json) → Shows v (.ofJson v)
  | .null => .null _
  | .bool _ => .bool _
  | .number _ => .number _
  | .string _ => .string _
  | .array values => .array _ _ (shows_ofItems values)
  | .object values => .object _ _ (named_ofMembers values) (shows_ofMembers values)

theorem shows_ofItems : (values : List Json) →
    List.Forall₂ (fun v i => Shows v i.value) values (Tree.ofItems values)
  | [] => .nil
  | v :: values => .cons (shows_ofJson v) (shows_ofItems values)

theorem shows_ofMembers : (values : List (String × Json)) →
    List.Forall₂ (fun v m => Shows v.2 m.value) values (Tree.ofMembers values)
  | [] => .nil
  | (_, v) :: values => .cons (shows_ofJson v) (shows_ofMembers values)

end

/-! ### What decoders make of values -/

variable {α : Type} {read : Tree → Decoded α} {v : Json} {a : α}

/-- Every tree that shows the value is decoded to `a`. -/
def Reads (read : Tree → Decoded α) (v : Json) (a : α) : Prop := ∀ t, Shows v t → read t = .ok a

theorem Reads.decode (reads : Reads read v a) : decode read v = .ok a := by
  rw [Json.decode, reads _ (shows_ofJson v)]
  rfl

theorem Reads.map {β : Type} (reads : Reads read v a) (f : α → β) :
    Reads (fun t => f <$> read t) v (f a) := fun t shown => by
  show f <$> read t = .ok (f a)
  rw [reads t shown]
  rfl

theorem reads_string (expected s : String) : Reads (readString? expected) (.string s) s := by
  rintro _ ⟨⟩
  rfl

theorem reads_text (s : String) : Reads readText (.string s) s := reads_string _ s

theorem reads_path (p : Path) : Reads readPath (ofPath p) p := (reads_string _ p.text).map Path.mk

theorem text_given (s : String) : Reads readText (.string s) s ∧ Json.string s ≠ .null :=
  ⟨reads_text s, nofun⟩

theorem path_given (p : Path) : Reads readPath (ofPath p) p ∧ ofPath p ≠ .null :=
  ⟨reads_path p, nofun⟩

theorem reads_bool (b : Bool) : Reads readBool (.bool b) b := by
  rintro _ ⟨⟩
  rfl

theorem reads_natural (n : Nat) : Reads readNatural (ofNat n) n := by
  rintro _ ⟨⟩
  rw [readNatural, if_neg (by omega)]
  rfl

theorem reads_name {names : List (String × α)} {name : String}
    (known : names.lookup name = some a) : Reads (readName names) (.string name) a := by
  rintro _ ⟨⟩
  simp only [readName, known]

theorem reads_option (reads : Reads read v a) (value : v ≠ .null) :
    Reads (readOption read) v (some a) := by
  rintro t shown
  have read_t : some <$> read t = .ok (some a) := reads.map some t shown
  cases shown with
  | null => exact absurd rfl value
  | _ => exact read_t

theorem reads_list {toJson : α → Json} (values : List α)
    (reads : ∀ a ∈ values, Reads read (toJson a) a) :
    Reads (readList read) (.array (values.map toJson)) values := by
  rintro _ (_ | _ | _ | _ | @⟨_, items, start, stop, shown⟩)
  have all : items.mapM (fun i => (read i.value).placed i.resume) = .ok values := by
    rw [List.forall₂_map_left_iff] at shown
    induction shown with
    | nil => rfl
    | cons first _ ih =>
      obtain ⟨reads, others⟩ := List.forall_mem_cons.mp reads
      rw [List.mapM_cons, reads _ first, Decoded.placed, ih others]
      rfl
  rw [readList, all]
  rfl

/-! ### Members that may be left out -/

section Members

variable {P : String × Json → Prop} {key : String} {toJson : α → Json}

theorem forall_mem_ifSome {o : Option α} :
    (∀ m ∈ ifSome key toJson o, P m) ↔ ∀ a ∈ o, P (key, toJson a) := by
  cases o <;> simp [ifSome]

theorem forall_mem_ifAny {l : List α} :
    (∀ m ∈ ifAny key toJson l, P m) ↔ l ≠ [] → P (key, .array (l.map toJson)) := by
  cases l <;> simp [ifAny]

theorem forall_mem_ifTrue {flag : Bool} :
    (∀ m ∈ ifTrue key flag, P m) ↔ (flag → P (key, .bool true)) := by
  cases flag <;> simp [ifTrue]

end Members

/-! ### Records -/

/-- A field of a record, as it was written. -/
structure Written (σ : Type) where
  field : RecordField σ
  /-- What was written for the field, unless it was left out. -/
  value : Option Json
  /-- What the field is for a record that is read. -/
  apply : σ → σ
  present : ∀ v ∈ value, ∀ r, Reads (field.read · r) v (apply r)
  absent : value = none → field.presence ≠ .required ∧ ∀ r, apply r = r

namespace Written

variable {σ : Type}

def name (w : Written σ) : String := w.field.name

def member? (w : Written σ) : Option (String × Json) := w.value.map fun v => (w.name, v)

/-- A field that is always written. -/
def required (name : String) (read : Tree → Decoded α) (set : α → σ → σ) (v : Json) (a : α)
    (reads : Reads read v a) : Written σ where
  field := .of name .required read set
  value := some v
  apply := set a
  present := by
    rintro _ ⟨⟩ r
    exact reads.map (set · r)
  absent := nofun

/-- A field that is left out where nothing is to be written. -/
def optional (name : String) (read : Tree → Decoded α) (set : α → σ → σ) (get : σ → α)
    (same : ∀ r, set (get r) r = r) (value : Option Json) (a : α)
    (reads : ∀ v ∈ value, Reads read v a) : Written σ where
  field := .of name .optional read set
  value := value
  apply r := set (if value.isSome then a else get r) r
  present v written r := by
    rw [if_pos (Option.isSome_of_mem written)]
    exact (reads v written).map (set · r)
  absent unwritten := by
    refine ⟨nofun, fun r => ?_⟩
    rw [unwritten]
    exact same r

/-- A field that may be left out, but is not. -/
def always (name : String) (read : Tree → Decoded α) (set : α → σ → σ) (get : σ → α)
    (same : ∀ r, set (get r) r = r) (v : Json) (a : α) (reads : Reads read v a) : Written σ :=
  .optional name read set get same (some v) a <| by
    rintro _ ⟨⟩
    exact reads

/-- A field that is written where there is a value. -/
def option (name : String) (read : Tree → Decoded α) (set : Option α → σ → σ) (get : σ → Option α)
    (same : ∀ r, set (get r) r = r) (toJson : α → Json) (o : Option α)
    (reads : ∀ a ∈ o, Reads read (toJson a) a ∧ toJson a ≠ .null) : Written σ :=
  .optional name (readOption read) set get same (o.map toJson) o <| by
    intro v written
    obtain ⟨a, given, rfl⟩ := Option.map_eq_some_iff.mp written
    obtain ⟨reads, value⟩ := reads a given
    rw [given]
    exact reads_option reads value

/-- A field that is written where there is any value. -/
def list (name : String) (read : Tree → Decoded α) (set : List α → σ → σ) (get : σ → List α)
    (same : ∀ r, set (get r) r = r) (toJson : α → Json) (l : List α)
    (reads : ∀ a ∈ l, Reads read (toJson a) a) : Written σ :=
  .optional name (readList read) set get same
    (if l.isEmpty then none else some (.array (l.map toJson))) l <| by
    rintro v written
    cases l with
    | nil => cases written
    | cons a l =>
      cases written
      exact reads_list _ reads

/-- A field that is written where it is true. -/
def flag (name : String) (set : Bool → σ → σ) (get : σ → Bool) (same : ∀ r, set (get r) r = r)
    (b : Bool) : Written σ :=
  .optional name readBool set get same (if b then some (.bool true) else none) b <| by
    rintro v written
    cases b with
    | false => cases written
    | true =>
      cases written
      exact reads_bool true

section Shapes

variable {name : String} {toJson : α → Json} {r : σ}

@[simp] theorem member?_required {set : α → σ → σ} {reads : Reads read v a} :
    (required name read set v a reads).member?.toList = [(name, v)] := rfl

@[simp] theorem member?_always {set : α → σ → σ} {get : σ → α} {same : ∀ r, set (get r) r = r}
    {reads : Reads read v a} :
    (always name read set get same v a reads).member?.toList = [(name, v)] := rfl

@[simp] theorem member?_option {set : Option α → σ → σ} {get : σ → Option α}
    {same : ∀ r, set (get r) r = r} {o : Option α}
    {reads : ∀ a ∈ o, Reads read (toJson a) a ∧ toJson a ≠ .null} :
    (option name read set get same toJson o reads).member?.toList = ifSome name toJson o := by
  cases o <;> rfl

@[simp] theorem member?_list {set : List α → σ → σ} {get : σ → List α}
    {same : ∀ r, set (get r) r = r} {l : List α} {reads : ∀ a ∈ l, Reads read (toJson a) a} :
    (list name read set get same toJson l reads).member?.toList = ifAny name toJson l := by
  cases l <;> rfl

@[simp] theorem member?_flag {set : Bool → σ → σ} {get : σ → Bool}
    {same : ∀ r, set (get r) r = r} {b : Bool} :
    (flag name set get same b).member?.toList = ifTrue name b := by
  cases b <;> rfl

@[simp] theorem apply_required {set : α → σ → σ} {reads : Reads read v a} :
    (required name read set v a reads).apply r = set a r := rfl

@[simp] theorem apply_always {set : α → σ → σ} {get : σ → α} {same : ∀ r, set (get r) r = r}
    {reads : Reads read v a} : (always name read set get same v a reads).apply r = set a r := rfl

@[simp] theorem apply_option {set : Option α → σ → σ} {get : σ → Option α}
    {same : ∀ r, set (get r) r = r} {o : Option α}
    {reads : ∀ a ∈ o, Reads read (toJson a) a ∧ toJson a ≠ .null} :
    (option name read set get same toJson o reads).apply r = set (o.or (get r)) r := by
  cases o <;> rfl

@[simp] theorem apply_list {set : List α → σ → σ} {get : σ → List α}
    {same : ∀ r, set (get r) r = r} {l : List α} {reads : ∀ a ∈ l, Reads read (toJson a) a} :
    (list name read set get same toJson l reads).apply r =
      set (if l = [] then get r else l) r := by
  cases l <;> rfl

@[simp] theorem apply_flag {set : Bool → σ → σ} {get : σ → Bool}
    {same : ∀ r, set (get r) r = r} {b : Bool} :
    (flag name set get same b).apply r = set (b || get r) r := by
  cases b <;> rfl

end Shapes

variable {fields : List (RecordField σ)} {other : Member Tree → σ → Decoded σ}

theorem readMember_written {w : Written σ} {p : Partly σ} {m : Member Tree}
    (found : fields.find? (·.name = w.name) = some w.field) (fresh : w.name ∉ p.seen)
    (written : v ∈ w.value) (named : m.Named w.name) (shown : Shows v m.value) :
    readMember fields other p m = .ok ⟨w.name :: p.seen, w.apply p.record⟩ := by
  obtain ⟨key, clean⟩ := named
  have reads := w.present v written p.record _ shown
  simp only [readMember, clean, key, found, if_neg fresh, reads]
  rfl

theorem foldlM_readMember (other : Member Tree → σ → Decoded σ) {ws : List (Written σ)}
    {members : List (Member Tree)} {p : Partly σ}
    (found : ∀ w ∈ ws, fields.find? (·.name = w.name) = some w.field)
    (fresh : ∀ w ∈ ws, w.name ∉ p.seen) (different : (ws.map name).Nodup)
    (named : List.Forall₂ (fun v m => m.Named v.1) (ws.filterMap member?) members)
    (shown : List.Forall₂ (fun v m => Shows v.2 m.value) (ws.filterMap member?) members) :
    ∃ seen, members.foldlM (readMember fields other) p =
        .ok ⟨seen, ws.foldl (fun r w => w.apply r) p.record⟩ ∧
      p.seen ⊆ seen ∧ ∀ w ∈ ws, w.value.isSome → w.name ∈ seen := by
  induction ws generalizing members p with
  | nil =>
    cases named
    exact ⟨p.seen, rfl, List.Subset.refl _, nofun⟩
  | cons w ws ih =>
    obtain ⟨found_w, found⟩ := List.forall_mem_cons.mp found
    obtain ⟨fresh_w, fresh⟩ := List.forall_mem_cons.mp fresh
    obtain ⟨apart, different⟩ := List.nodup_cons.mp different
    cases written : w.value with
    | none =>
      have unwritten : w.member? = none := by rw [member?, written]; rfl
      rw [List.filterMap_cons_none unwritten] at named shown
      obtain ⟨seen, read, kept, all⟩ := ih found fresh different named shown
      refine ⟨seen, ?_, kept, List.forall_mem_cons.mpr ⟨by simp [written], all⟩⟩
      rw [read, List.foldl_cons, (w.absent written).2]
    | some v =>
      have given : w.member? = some (w.name, v) := by rw [member?, written]; rfl
      rw [List.filterMap_cons_some given] at named shown
      obtain ⟨m, members, named_m, named_ws, rfl⟩ := List.forall₂_cons_left_iff.mp named
      obtain ⟨shown_m, shown_ws⟩ := List.forall₂_cons.mp shown
      have fresh' : ∀ w' ∈ ws, w'.name ∉ w.name :: p.seen := fun w' member seen => by
        rcases List.mem_cons.mp seen with same | seen
        · exact apart (same ▸ List.mem_map_of_mem member)
        · exact fresh w' member seen
      obtain ⟨seen, read, kept, all⟩ :=
        ih (p := ⟨w.name :: p.seen, w.apply p.record⟩) found fresh' different named_ws shown_ws
      refine ⟨seen, ?_, fun x member => kept (List.mem_cons_of_mem _ member),
        List.forall_mem_cons.mpr ⟨fun _ => kept List.mem_cons_self, all⟩⟩
      rw [List.foldlM_cons, readMember_written found_w fresh_w written named_m shown_m]
      exact read

theorem find?_field {ws : List (Written σ)} (different : (ws.map name).Nodup) :
    ∀ w ∈ ws, (ws.map field).find? (·.name = w.name) = some w.field := by
  induction ws with
  | nil => nofun
  | cons first ws ih =>
    obtain ⟨apart, different⟩ := List.nodup_cons.mp different
    intro w member
    rw [List.map_cons]
    rcases List.mem_cons.mp member with rfl | later
    · exact List.find?_cons_of_pos (decide_eq_true rfl)
    · have other : first.name ≠ w.name := fun same => apart (same ▸ List.mem_map_of_mem later)
      rw [List.find?_cons_of_neg, ih different w later]
      exact fun same => other (of_decide_eq_true same)

theorem readMembersOf_written {ws : List (Written σ)} {blank r : σ}
    {members others : List (Member Tree)} {stop : Mark} (different : (ws.map name).Nodup)
    (named : List.Forall₂ (fun v m => m.Named v.1) (ws.filterMap member?) members)
    (shown : List.Forall₂ (fun v m => Shows v.2 m.value) (ws.filterMap member?) members)
    (rest : ∀ seen, others.foldlM (readMember (ws.map field) other)
      ⟨seen, ws.foldl (fun r w => w.apply r) blank⟩ = .ok ⟨seen, r⟩) :
    readMembersOf (ws.map field) other blank (members ++ others) (.closed stop) = .ok r := by
  obtain ⟨seen, read, -, all⟩ := foldlM_readMember other (p := ⟨[], blank⟩)
    (find?_field different) (fun _ _ => List.not_mem_nil) different named shown
  have complete :
      ((ws.map field).find? fun f => f.presence = .required ∧ f.name ∉ seen) = none := by
    rw [List.find?_eq_none, List.forall_mem_map]
    intro w member missing
    obtain ⟨required, missing⟩ := of_decide_eq_true missing
    cases written : w.value with
    | none => exact (w.absent written).1 required
    | some v => exact missing (all w member (by rw [written]; rfl))
  simp only [readMembersOf, List.foldlM_append, read, rest seen, bind, Except.bind, Ending.check,
    complete]

theorem reads_record (ws : List (Written σ)) {fields : List (RecordField σ)}
    {members : List (String × Json)} {title : String} {blank r : σ} (made : ws.map field = fields)
    (different : (fields.map (·.name)).Nodup) (written : ws.filterMap member? = members)
    (whole : ws.foldl (fun r w => w.apply r) blank = r) :
    Reads (readRecord title fields blank) (.object members) r := by
  subst made written whole
  rintro _ (_ | _ | _ | _ | _ | @⟨_, members, start, stop, named, shown⟩)
  rw [List.map_map] at different
  rw [readRecord, ← List.append_nil members]
  exact readMembersOf_written different named shown fun _ => rfl

/-- What is written of a record, part by part. -/
theorem filterMap_member? (ws : List (Written σ)) :
    ws.filterMap member? = ws.flatMap fun w => w.member?.toList :=
  List.filterMap_eq_flatMap_toList _ _

end Written

end RefDoc.Json
