import RefDoc.Json.Printer
import RefDoc.Json.Reader

/-!
# How values are spelled

Both layouts write one grammar: items and members stand behind gaps of blanks, and commas are
between them (`Spells`). The grammar is that of values whose numbers are naturals of 64 bits
(`Plain`); its first argument bounds how deep a value nests.
-/

namespace RefDoc.Json

/-- Nothing but what is skipped between the parts of a value. -/
def Gap (text : List Char) : Prop := ∀ c ∈ text, Cursor.isSpace c = true

theorem gap_nil : Gap [] := nofun

theorem gap_blank : Gap [' '] := List.forall_mem_singleton.mpr rfl

theorem gap_newLine (level : Nat) : Gap (newLine level).toList := by
  intro c member
  simp only [newLine, String.toList_ofList, List.mem_cons, List.mem_replicate] at member
  rcases member with rfl | ⟨-, rfl⟩ <;> rfl

/-! ### The grammar -/

variable {α : Type}

/-- What is written of a list behind its opening bracket, each item being spelled as `S` says;
`first` is set before the first item. -/
inductive Listed (S : α → List Char → Prop) (close : Char) : Bool → List α → List Char → Prop where
  | closed {first : Bool} {gap : List Char} (blank : Gap gap) :
      Listed S close first [] (gap ++ [close])
  | first {a : α} {as : List α} {gap text rest : List Char} (blank : Gap gap) (spelled : S a text)
      (others : Listed S close false as rest) :
      Listed S close true (a :: as) (gap ++ (text ++ rest))
  | next {a : α} {as : List α} {gap text rest : List Char} (blank : Gap gap) (spelled : S a text)
      (others : Listed S close false as rest) :
      Listed S close false (a :: as) (',' :: (gap ++ (text ++ rest)))

/-- A member of an object, the value being spelled as `S` says. -/
def SpellsMember (S : Json → List Char → Prop) (m : String × Json) (text : List Char) : Prop :=
  ∃ gap value, Gap gap ∧ S m.2 value ∧
    text = (writeString m.1).toList ++ (':' :: (gap ++ value))

/-- The text spells the value, which nests at most `n` deep. -/
def Spells : Nat → Json → List Char → Prop
  | _, .null, text => text = "null".toList
  | _, .bool b, text => text = if b then "true".toList else "false".toList
  | _, .number x, text => ∃ k ≤ largestNatural, x = .integer k ∧ text = Nat.toDigits 10 k
  | _, .string s, text => text = (writeString s).toList
  | 0, .array _, _ | 0, .object _, _ => False
  | n + 1, .array values, text => ∃ rest, text = '[' :: rest ∧ Listed (Spells n) ']' true values rest
  | n + 1, .object values, text =>
    ∃ rest, text = '\x7b' :: rest ∧ Listed (SpellsMember (Spells n)) '\x7d' true values rest

section Scalars

variable {n : Nat} {text : List Char}

theorem spells_null : Spells n .null text ↔ text = "null".toList := by
  cases n <;> rfl

theorem spells_bool {b : Bool} :
    Spells n (.bool b) text ↔ text = if b then "true".toList else "false".toList := by
  cases n <;> rfl

theorem spells_number {x : Number} :
    Spells n (.number x) text ↔ ∃ k ≤ largestNatural, x = .integer k ∧ text = Nat.toDigits 10 k := by
  cases n <;> rfl

theorem spells_string {s : String} :
    Spells n (.string s) text ↔ text = (writeString s).toList := by
  cases n <;> rfl

end Scalars

/-- The numbers of the value are naturals of 64 bits, and it nests at most `n` deep. -/
def Plain : Nat → Json → Prop
  | _, .null | _, .bool _ | _, .string _ => True
  | _, .number x => ∃ k ≤ largestNatural, x = .integer k
  | 0, .array _ | 0, .object _ => False
  | n + 1, .array values => ∀ v ∈ values, Plain n v
  | n + 1, .object values => ∀ m ∈ values, Plain n m.2

/-! ### Both layouts -/

/-- Texts behind gaps, with commas between them. -/
def joined (gap : List Char) : List (List Char) → List Char
  | [] => []
  | [text] => gap ++ text
  | text :: rest => gap ++ text ++ ',' :: joined gap rest

section Joined

variable {S : α → List Char → Prop} {write : α → List Char} {close : Char} {gap tail : List Char}

theorem joined_cons (blank : Gap gap) (ended : Gap tail) (a : α) {as : List α}
    (spelled : ∀ b ∈ a :: as, S b (write b)) :
    ∃ rest, joined gap ((a :: as).map write) ++ (tail ++ [close]) = gap ++ (write a ++ rest) ∧
      Listed S close false as rest := by
  induction as generalizing a with
  | nil => exact ⟨tail ++ [close], by simp [joined], .closed ended⟩
  | cons b as ih =>
    obtain ⟨-, others⟩ := List.forall_mem_cons.mp spelled
    obtain ⟨rest, split, listed⟩ := ih b others
    refine ⟨',' :: (gap ++ (write b ++ rest)), ?_, .next blank (others b List.mem_cons_self) listed⟩
    rw [← split]
    simp [joined]

theorem listed_joined (blank : Gap gap) (ended : Gap tail) {as : List α}
    (spelled : ∀ a ∈ as, S a (write a)) :
    Listed S close true as (joined gap (as.map write) ++ (tail ++ [close])) := by
  cases as with
  | nil => exact .closed ended
  | cons a as =>
    obtain ⟨rest, split, listed⟩ := joined_cons blank ended a spelled
    rw [split]
    exact .first blank (spelled a List.mem_cons_self) listed

end Joined

/-- How a member is written, with what stands before the value. -/
def writeMember (gap : List Char) (write : Json → String) (m : String × Json) : List Char :=
  (writeString m.1).toList ++ (':' :: (gap ++ (write m.2).toList))

theorem compactItems_eq (values : List Json) :
    (compactItems values).toList = joined [] (values.map fun v => v.compact.toList) := by
  induction values with
  | nil => rfl
  | cons v values ih =>
    cases values with
    | nil => simp [compactItems, joined]
    | cons w values => simp [compactItems, joined, ih]

theorem compactMembers_eq (values : List (String × Json)) :
    (compactMembers values).toList = joined [] (values.map (writeMember [] compact)) := by
  induction values with
  | nil => rfl
  | cons m values ih =>
    cases values with
    | nil => simp [compactMembers, joined, writeMember]
    | cons m' values => simp [compactMembers, joined, writeMember, ih]

theorem prettyItems_eq (level : Nat) (values : List Json) :
    (prettyItems level values).toList =
      joined (newLine level).toList (values.map fun v => (prettyAt level v).toList) := by
  induction values with
  | nil => rfl
  | cons v values ih =>
    cases values with
    | nil => simp [prettyItems, joined]
    | cons w values => simp [prettyItems, joined, ih]

theorem prettyMembers_eq (level : Nat) (values : List (String × Json)) :
    (prettyMembers level values).toList =
      joined (newLine level).toList (values.map (writeMember [' '] (prettyAt level))) := by
  induction values with
  | nil => rfl
  | cons m values ih =>
    cases values with
    | nil => simp [prettyMembers, joined, writeMember]
    | cons m' values => simp [prettyMembers, joined, writeMember, ih]

/-- Scalars are spelled the same way in both layouts. -/
theorem spells_scalar {n : Nat} {v : Json} (plain : Plain n v) (scalar : ∀ vs, v ≠ .array vs)
    (scalar' : ∀ ms, v ≠ .object ms) : Spells n v (writeScalar v).toList := by
  cases v with
  | array values => exact absurd rfl (scalar values)
  | object values => exact absurd rfl (scalar' values)
  | null => exact spells_null.mpr rfl
  | bool b => exact spells_bool.mpr (by cases b <;> rfl)
  | string s => exact spells_string.mpr rfl
  | number x =>
    obtain ⟨k, bound, rfl⟩ : ∃ k ≤ largestNatural, x = .integer k := by cases n <;> exact plain
    exact spells_number.mpr ⟨k, bound, rfl, Nat.toList_repr⟩

theorem spells_compact {n : Nat} {v : Json} (plain : Plain n v) : Spells n v v.compact.toList := by
  induction n generalizing v with
  | zero =>
    cases v with
    | array | object => exact plain.elim
    | _ => exact spells_scalar plain nofun nofun
  | succ n ih =>
    cases v with
    | array values =>
      refine ⟨_, ?_, listed_joined gap_nil gap_nil fun v member => ih (plain v member)⟩
      simp [compact, compactItems_eq]
    | object values =>
      have spelled : ∀ m ∈ values, SpellsMember (Spells n) m (writeMember [] compact m) :=
        fun m member => ⟨[], _, gap_nil, ih (plain m member), rfl⟩
      refine ⟨_, ?_, listed_joined gap_nil gap_nil spelled⟩
      simp [compact, compactMembers_eq]
    | _ => exact spells_scalar plain nofun nofun

theorem spells_prettyAt {n : Nat} {v : Json} (plain : Plain n v) (level : Nat) :
    Spells n v (prettyAt level v).toList := by
  induction n generalizing v level with
  | zero =>
    cases v with
    | array | object => exact plain.elim
    | _ => exact spells_scalar plain nofun nofun
  | succ n ih =>
    cases v with
    | array values =>
      cases values with
      | nil => exact ⟨_, by rw [prettyAt]; rfl, .closed gap_nil⟩
      | cons v values =>
        refine ⟨_, ?_, listed_joined (gap_newLine (level + 1)) (gap_newLine level)
          fun v member => ih (plain v member) (level + 1)⟩
        simp [prettyAt, prettyItems_eq]
    | object values =>
      cases values with
      | nil => exact ⟨_, by rw [prettyAt]; rfl, .closed gap_nil⟩
      | cons m values =>
        have spelled : ∀ m' ∈ m :: values,
            SpellsMember (Spells n) m' (writeMember [' '] (prettyAt (level + 1)) m') :=
          fun m' member => ⟨[' '], _, gap_blank, ih (plain m' member) (level + 1), rfl⟩
        refine ⟨_, ?_, listed_joined (gap_newLine (level + 1)) (gap_newLine level) spelled⟩
        simp [prettyAt, prettyMembers_eq]
    | _ => exact spells_scalar plain nofun nofun

end RefDoc.Json
