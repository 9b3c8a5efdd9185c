import RefDoc.Json.Reader

/-!
# Decoding

Decoders turn a tree into a value of the library or say what is wrong with it, and where. An error
that does not know its place gets one from the array or object around it. A record is described by
its fields (`RecordField`); `readRecord` reads it from an object or from an array of the fields in
order, `readOpenRecord` from an object whose other members are kept.
-/

namespace RefDoc.Json

structure DecodeError where
  text : String
  mark : Option Mark
  deriving DecidableEq, Repr

namespace DecodeError

def ofFault (f : Fault) : DecodeError := ⟨f.strict.message, some f.mark⟩

/-- The error at `mark`, unless it has a place already. -/
def placed (e : DecodeError) (mark : Mark) : DecodeError := { e with mark := e.mark.or (some mark) }

/-- What is said of a text: the error and its place. -/
def message (e : DecodeError) : String :=
  let m := e.mark.getD ⟨0, 0⟩
  s!"{e.text} at line {m.line} column {m.column}"

end DecodeError

abbrev Decoded := Except DecodeError

def Decoded.placed {α : Type} (mark : Mark) : Decoded α → Decoded α
  | .ok a => .ok a
  | .error e => .error (e.placed mark)

/-- What was found where something else was expected. -/
def Scalar.describe : Scalar → String
  | .null => "null"
  | .bool b => s!"boolean `{b}`"
  | .number (.integer i) => s!"integer `{i}`"
  | .number (.double d) => s!"floating point `{d.text}`"
  | .string s => "string " ++ Text.quoted s

def invalidType (expected : String) : Tree → DecodeError
  | .scalar v stop => ⟨s!"invalid type: {v.describe}, expected {expected}", some stop⟩
  | .array start _ _ => ⟨s!"invalid type: sequence, expected {expected}", some start⟩
  | .object start _ _ => ⟨s!"invalid type: map, expected {expected}", some start⟩
  | .fault f => .ofFault f
  | .strained f skipped =>
    match skipped with
    | .array start _ _ => ⟨s!"invalid type: sequence, expected {expected}", some start⟩
    | .object start _ _ => ⟨s!"invalid type: map, expected {expected}", some start⟩
    | _ => .ofFault f

/-! ### Values without structure -/

def readBool : Tree → Decoded Bool
  | .scalar (.bool b) _ => .ok b
  | t => .error (invalidType "a boolean" t)

def readString? (expected : String) : Tree → Decoded String
  | .scalar (.string s) _ => .ok s
  | t => .error (invalidType expected t)

def readText : Tree → Decoded String := readString? "a string"

def readNatural : Tree → Decoded Nat
  | .scalar (.number (.integer i)) stop =>
    if i < 0 then .error ⟨s!"invalid value: integer `{i}`, expected usize", some stop⟩
    else .ok i.toNat
  | t => .error (invalidType "usize" t)

def readOption {α : Type} (read : Tree → Decoded α) : Tree → Decoded (Option α)
  | .scalar .null _ => .ok none
  | t => some <$> read t

def Ending.check : Ending → Decoded Mark
  | .closed stop => .ok stop
  | .broken f => .error (.ofFault f)
  | .unread => .error ⟨SyntaxError.eofInValue.message, none⟩

def readList {α : Type} (read : Tree → Decoded α) : Tree → Decoded (List α)
  | .array _ items ending => do
    let values ← items.mapM fun i => (read i.value).placed i.resume
    let _ ← ending.check
    .ok values
  | t => .error (invalidType "a sequence" t)

/-- One of the given names, as a string or as the only member of an object. -/
def readName {α : Type} (names : List (String × α)) (t : Tree) : Decoded α :=
  let find (name : String) : Decoded α :=
    match names.lookup name with
    | some a => .ok a
    | none =>
      let known := ", ".intercalate (names.map fun n => s!"`{n.1}`")
      .error ⟨s!"unknown variant `{name}`, expected one of {known}", none⟩
  match t with
  | .scalar (.string s) _ => find s
  | .object _ [m] _ => do
    let a ← find m.key
    match m.value with
    | .scalar .null _ => .ok a
    | t => .error (invalidType "unit" t)
  | .object _ _ _ => .error ⟨"invalid value: map, expected map with a single key", none⟩
  | t => .error (invalidType "string or map" t)

/-! ### Any value -/

mutual

/-- The value of a tree, with the members of objects as they stand. -/
def Tree.raw : Tree → Decoded Json
  | .scalar .null _ => .ok .null
  | .scalar (.bool b) _ => .ok (.bool b)
  | .scalar (.number n) _ => .ok (.number n)
  | .scalar (.string s) _ => .ok (.string s)
  | .array _ items ending => do
    let values ← Tree.rawItems items
    let _ ← ending.check
    .ok (.array values)
  | .object _ members ending => do
    let values ← Tree.rawMembers members
    let _ ← ending.check
    .ok (.object values)
  | .fault f | .strained f _ => .error (.ofFault f)

def Tree.rawItems : List (Item Tree) → Decoded (List Json)
  | [] => .ok []
  | i :: rest => do
    let v ← i.value.raw
    .ok (v :: (← Tree.rawItems rest))

def Tree.rawMembers : List (Member Tree) → Decoded (List (String × Json))
  | [] => .ok []
  | m :: rest => do
    if let some f := m.keyFault then .error (.ofFault f)
    let v ← m.value.raw
    .ok ((m.key, v) :: (← Tree.rawMembers rest))

end

mutual

/-- The value with the members of every object by name, the last one of a name being kept. -/
def normal : Json → Json
  | .array items => .array (normalItems items)
  | .object members => .ofTable (.ofList (normalMembers members))
  | v => v

def normalItems : List Json → List Json
  | [] => []
  | v :: rest => normal v :: normalItems rest

def normalMembers : List (String × Json) → List (String × Json)
  | [] => []
  | (key, v) :: rest => (key, normal v) :: normalMembers rest

end

def readJson (t : Tree) : Decoded Json := normal <$> t.raw

mutual

/-- The first fault that skipping a value meets. -/
def Tree.skipFault? : Tree → Option Fault
  | .scalar _ _ => none
  | .array _ items ending => (Tree.skipItems? items).or ending.skipFault?
  | .object _ members ending => (Tree.skipMembers? members).or ending.skipFault?
  | .fault f => some f
  | .strained _ t => t.skipFault?

def Tree.skipItems? : List (Item Tree) → Option Fault
  | [] => none
  | i :: rest => i.value.skipFault?.or (Tree.skipItems? rest)

def Tree.skipMembers? : List (Member Tree) → Option Fault
  | [] => none
  | m :: rest => m.value.skipFault?.or (Tree.skipMembers? rest)

def Ending.skipFault? : Ending → Option Fault
  | .broken f => some f
  | _ => none

end

def skip (t : Tree) : Decoded Unit :=
  match t.skipFault? with
  | none => .ok ()
  | some f => .error ⟨f.lenient.message, some f.mark⟩

/-! ### Records -/

inductive Presence where
  | required
  | optional
  /-- May be missing from an object, but not from an array of fields. -/
  | optionalMember
  deriving DecidableEq

/-- A field of a record: reading it changes the record read so far. -/
structure RecordField (σ : Type) where
  name : String
  presence : Presence
  read : Tree → σ → Decoded σ

def RecordField.of {σ α : Type} (name : String) (presence : Presence) (read : Tree → Decoded α)
    (set : α → σ → σ) : RecordField σ :=
  ⟨name, presence, fun t s => (fun a => set a s) <$> read t⟩

variable {σ : Type}

/-- A record partly read from an object, with the names of the fields read. -/
structure Partly (σ : Type) where
  seen : List String
  record : σ

/-- Reads a member that is one of `fields`; `other` reads any other member. -/
def readMember (fields : List (RecordField σ)) (other : Member Tree → σ → Decoded σ) (p : Partly σ)
    (m : Member Tree) : Decoded (Partly σ) :=
  match m.keyFault with
  | some f => .error (.ofFault f)
  | none =>
    match fields.find? (·.name = m.key) with
    | some f =>
      if m.key ∈ p.seen then .error ⟨s!"duplicate field `{m.key}`", some m.afterKey⟩
      else do
        let record ← (f.read m.value p.record).placed m.afterValue
        .ok ⟨m.key :: p.seen, record⟩
    | none => do
      let record ← (other m p.record).placed m.afterValue
      .ok ⟨p.seen, record⟩

def readMembersOf (fields : List (RecordField σ)) (other : Member Tree → σ → Decoded σ) (blank : σ)
    (members : List (Member Tree)) (ending : Ending) : Decoded σ := do
  let p ← members.foldlM (readMember fields other) ⟨[], blank⟩
  let stop ← ending.check
  match fields.find? fun f => f.presence = .required ∧ f.name ∉ p.seen with
  | some f => .error ⟨s!"missing field `{f.name}`", some stop⟩
  | none => .ok p.record

/-- Reads the fields of a record from the items of an array; `index` items were read before, the
last of them being `last`. -/
def readItemsOf (length : String) (total index : Nat) (last : Option (Item Tree)) (ending : Ending)
    (record : σ) : List (RecordField σ) → List (Item Tree) → Decoded σ
  | [], rest =>
    match last.bind (·.left), rest with
    | some f, _ => .error (.ofFault f)
    | none, [] => .ok record
    | none, _ => .error ⟨s!"invalid length {total}, expected fewer elements in array", none⟩
  | f :: fields, item :: rest => do
    let record ← (f.read item.value record).placed item.resume
    readItemsOf length total (index + 1) (some item) ending record fields rest
  | f :: fields, [] => do
    let stop ← ending.check
    if f.presence = .optional then readItemsOf length total (index + 1) none ending record fields []
    else .error ⟨s!"invalid length {index}, expected {length}", some stop⟩

def readRecord (title : String) (fields : List (RecordField σ)) (blank : σ) : Tree → Decoded σ
  | .object _ members ending =>
    readMembersOf fields (fun m s => (fun _ => s) <$> skip m.value) blank members ending
  | .array _ items ending =>
    readItemsOf s!"struct {title} with {fields.length} elements" items.length 0 none ending blank
      fields items
  | t => .error (invalidType s!"struct {title}" t)

/-- `keep` takes a member that is no field. -/
def readOpenRecord (title : String) (fields : List (RecordField σ)) (keep : String → Json → σ → σ)
    (blank : σ) : Tree → Decoded σ
  | .object _ members ending =>
    readMembersOf fields (fun m s => (fun v => keep m.key v s) <$> readJson m.value) blank members
      ending
  | t => .error (invalidType s!"struct {title}" t)

/-- A table of values by the names of an object's members. -/
def readTable {α : Type} (read : Tree → Decoded α) : Tree → Decoded (Table α)
  | .object _ members ending => do
    let entries ← members.mapM fun m => do
      if let some f := m.keyFault then .error (.ofFault f)
      (fun a => (m.key, a)) <$> (read m.value).placed m.afterValue
    let _ ← ending.check
    .ok (.ofList entries)
  | t => .error (invalidType "a map" t)

/-- Decodes a text as one value. -/
def decodeText {α : Type} (read : Tree → Decoded α) (text : String) : Decoded α := do
  let d := Document.read text
  let a ← read d.tree
  match d.trailing with
  | some f => .error (.ofFault f)
  | none => .ok a

/-- Decodes a value. -/
def decode {α : Type} (read : Tree → Decoded α) (v : Json) : Except String α :=
  (read (.ofJson v)).mapError (·.text)

end RefDoc.Json
