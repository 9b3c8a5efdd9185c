import RefDoc.Doclet.Json
import RefDoc.Proofs.Doclet.Index
import RefDoc.Proofs.Json.Reading

/-!
# Doclets survive being written

What is written of a doclet is read back as the doclet, field by field, whatever is left out; and a
collection is read back as the list of its doclets. So it is with the value and with its text in
either layout (`encoding_roundtrip`).
-/

namespace RefDoc

open Json

namespace Kind

theorem reads (k : Kind) : Reads Kind.read k.toJson k := reads_name (by cases k <;> rfl)

end Kind

namespace Scope

theorem reads (s : Scope) : Reads Scope.read s.toJson s := reads_name (by cases s <;> rfl)

end Scope

namespace Access

theorem reads (a : Access) : Reads Access.read a.toJson a := reads_name (by cases a <;> rfl)

end Access

namespace Borrow

def written (b : Borrow) : List (Written Borrow) :=
  [.required "from" readText (fun v b => { b with source := v }) (.string b.source) b.source
      (reads_text _),
    .required "as" readText (fun v b => { b with asName := v }) (.string b.asName) b.asName
      (reads_text _)]

theorem reads (b : Borrow) : Reads Borrow.read b.toJson b :=
  Written.reads_record b.written rfl (by decide) rfl rfl

end Borrow

namespace Tag

def written (t : Tag) : List (Written Tag) :=
  [.required "title" readText (fun v t => { t with title := v }) (.string t.title) t.title
      (reads_text _),
    .optional "value" readText (fun v t => { t with value := v }) (·.value) (fun _ => rfl)
      (if t.value.isEmpty then none else some (.string t.value)) t.value <| by
        intro v written
        split at written
        · cases written
        · cases written
          exact reads_text _]

theorem reads (t : Tag) : Reads Tag.read t.toJson t := by
  obtain ⟨title, value⟩ := t
  by_cases empty : value = ""
  · subst empty
    exact Written.reads_record (written ⟨title, ""⟩) rfl (by decide) rfl rfl
  · have given : value.isEmpty = false := by simpa using empty
    refine Written.reads_record (written ⟨title, value⟩) rfl (by decide) ?_ ?_ <;>
      simp [written, Written.member?, Written.name, Written.optional, Written.required,
        RecordField.of, given]

end Tag

namespace Origin

def written (o : Origin) : List (Written Origin) :=
  [.required "path" readPath (fun v o => { o with path := v }) (ofPath o.path) o.path
      (reads_path _),
    .required "filename" readText (fun v o => { o with filename := v }) (.string o.filename)
      o.filename (reads_text _),
    .required "lineno" readNatural (fun v o => { o with line := v }) (ofNat o.line) o.line
      (reads_natural _)]

theorem reads (o : Origin) : Reads Origin.read o.toJson o :=
  Written.reads_record o.written rfl (by decide) rfl rfl

end Origin

namespace Doclet

/-- The fields, as they are written. -/
def written (d : Doclet) : List (Written Doclet) :=
  let text (a : String) : Reads readText (.string a) a ∧ Json.string a ≠ .null :=
    ⟨reads_text a, nofun⟩
  [.required "name" readText (fun v d => { d with name := v }) (.string d.name) d.name
      (reads_text _),
    .required "longname" readText (fun v d => { d with longname := v }) (.string d.longname)
      d.longname (reads_text _),
    .required "kind" Kind.read (fun v d => { d with kind := v }) d.kind.toJson d.kind d.kind.reads,
    .option "memberof" readText (fun v d => { d with memberOf := v }) (·.memberOf) (fun _ => rfl)
      .string d.memberOf fun a _ => text a,
    .option "scope" Scope.read (fun v d => { d with scope := v }) (·.scope) (fun _ => rfl)
      Scope.toJson d.scope fun s _ => ⟨s.reads, nofun⟩,
    .option "access" Access.read (fun v d => { d with access := v }) (·.access) (fun _ => rfl)
      Access.toJson d.access fun a _ => ⟨a.reads, nofun⟩,
    .option "description" readText (fun v d => { d with description := v }) (·.description)
      (fun _ => rfl) .string d.description fun a _ => text a,
    .option "summary" readText (fun v d => { d with summary := v }) (·.summary) (fun _ => rfl)
      .string d.summary fun a _ => text a,
    .list "augments" readText (fun v d => { d with augments := v }) (·.augments) (fun _ => rfl)
      .string d.augments fun a _ => reads_text a,
    .list "mixes" readText (fun v d => { d with mixes := v }) (·.mixes) (fun _ => rfl)
      .string d.mixes fun a _ => reads_text a,
    .list "implements" readText (fun v d => { d with implements := v }) (·.implements)
      (fun _ => rfl) .string d.implements fun a _ => reads_text a,
    .list "borrowed" Borrow.read (fun v d => { d with borrowed := v }) (·.borrowed) (fun _ => rfl)
      Borrow.toJson d.borrowed fun b _ => b.reads,
    .flag "inherited" (fun v d => { d with inherited := v }) (·.inherited) (fun _ => rfl)
      d.inherited,
    .option "inherits" readText (fun v d => { d with inherits := v }) (·.inherits) (fun _ => rfl)
      .string d.inherits fun a _ => text a,
    .flag "mixed" (fun v d => { d with mixed := v }) (·.mixed) (fun _ => rfl) d.mixed,
    .flag "undocumented" (fun v d => { d with undocumented := v }) (·.undocumented) (fun _ => rfl)
      d.undocumented,
    .list "tags" Tag.read (fun v d => { d with tags := v }) (·.tags) (fun _ => rfl)
      Tag.toJson d.tags fun t _ => t.reads,
    .option "meta" Origin.read (fun v d => { d with origin := v }) (·.origin) (fun _ => rfl)
      Origin.toJson d.origin fun o _ => ⟨o.reads, nofun⟩,
    .list "files" readPath (fun v d => { d with files := v }) (·.files) (fun _ => rfl)
      ofPath d.files fun p _ => reads_path p,
    .option "version" readText (fun v d => { d with version := v }) (·.version) (fun _ => rfl)
      .string d.version fun a _ => text a]

theorem filterMap_written (d : Doclet) : d.written.filterMap Written.member? = d.members := by
  rw [Written.filterMap_member?]
  simp only [written, members, List.flatMap_cons, List.flatMap_nil, Written.member?_required,
    Written.member?_option, Written.member?_list, Written.member?_flag, List.append_assoc,
    List.cons_append, List.nil_append, List.append_nil]

theorem apply_written (d : Doclet) :
    d.written.foldl (fun r w => w.apply r) (named "" .member) = d := by
  simp only [written, List.foldl_cons, List.foldl_nil, Written.apply_required,
    Written.apply_option, Written.apply_list, Written.apply_flag]
  have list {α : Type} (l : List α) : (if l = [] then [] else l) = l := by cases l <;> rfl
  simp only [named, Option.or_none, Bool.or_false, list]

theorem reads (d : Doclet) : Reads Doclet.read d.toJson d :=
  Written.reads_record d.written rfl (by decide) d.filterMap_written d.apply_written

/-- The line of the doclet is a number of 64 bits. -/
def LineFits (d : Doclet) : Prop := ∀ o ∈ d.origin, o.line ≤ largestNatural

/-- A doclet nests three deep: the tags are a list of records. -/
theorem plain_toJson {d : Doclet} (fits : d.LineFits) : Plain 3 d.toJson := by
  show ∀ m ∈ d.members, Plain 2 m.2
  have strings (l : List String) : Plain 2 (.array (l.map .string)) :=
    List.forall_mem_map.mpr fun _ _ => trivial
  have paths : Plain 2 (.array (d.files.map ofPath)) := List.forall_mem_map.mpr fun _ _ => trivial
  have borrowed : Plain 2 (.array (d.borrowed.map Borrow.toJson)) := by
    refine List.forall_mem_map.mpr fun b _ => ?_
    simp [Borrow.toJson, Plain]
  have tags : Plain 2 (.array (d.tags.map Tag.toJson)) := by
    refine List.forall_mem_map.mpr fun t _ => ?_
    by_cases empty : t.value.isEmpty <;> simp [Tag.toJson, Plain, empty]
  have origin : ∀ o ∈ d.origin, Plain 2 o.toJson := by
    intro o given
    have line : Plain 1 (ofNat o.line) := ⟨o.line, fits o given, rfl⟩
    simpa [Origin.toJson, Plain, ofPath] using line
  have text (s : String) : Plain 2 (.string s) := trivial
  have names : (∀ k, Plain 2 (Kind.toJson k)) ∧ (∀ s, Plain 2 (Scope.toJson s)) ∧
      (∀ a, Plain 2 (Access.toJson a)) :=
    ⟨fun k => text k.name, fun s => text s.name, fun a => text a.name⟩
  have flag : Plain 2 (.bool true) := trivial
  simp only [members, List.forall_mem_append, forall_mem_ifSome, forall_mem_ifAny,
    forall_mem_ifTrue, List.forall_mem_cons, text, names, flag, strings, paths, borrowed, tags]
  simpa using origin

end Doclet

/-- **Nothing is lost in writing.** A doclet, whatever it says and leaves out, is decoded from what
is written of it, and a list of doclets from what is written of their collection: from the value,
and from its text without blanks and with them. -/
theorem encoding_roundtrip :
    (∀ d : Doclet, decode Doclet.read d.toJson = .ok d ∧
      (d.LineFits → decodeText Doclet.read d.toJson.compact = .ok d ∧
        decodeText Doclet.read d.toJson.pretty = .ok d)) ∧
    ∀ ds : List Doclet,
      let written := Json.array ((Collection.ofList ds).doclets.map Doclet.toJson)
      decode (readList Doclet.read) written = .ok ds ∧
      ((∀ d ∈ ds, d.LineFits) → decodeText (readList Doclet.read) written.compact = .ok ds ∧
        decodeText (readList Doclet.read) written.pretty = .ok ds) := by
  refine ⟨fun d => ⟨d.reads.decode, fun fits => ?_⟩, fun ds => ?_⟩
  · exact decodeText_written (Doclet.plain_toJson fits) (by decide) d.reads
  · intro written
    have reads : Reads (readList Doclet.read) written ds := by
      simp only [written, Collection.doclets_ofList]
      exact reads_list ds fun d _ => d.reads
    refine ⟨reads.decode, fun fits => ?_⟩
    have plain : Plain 4 written := by
      simp only [written, Collection.doclets_ofList]
      exact List.forall_mem_map.mpr fun d member => Doclet.plain_toJson (fits d member)
    exact decodeText_written plain (by decide) reads

/-- An instance member with an empty tag, a flag that is set and one that is not. -/
theorem encoding_roundtrip_member :
    let d : Doclet := { Doclet.named "area" .function with
      memberOf := some "shapes.Square", scope := some .onInstance, inherited := true
      tags := [⟨"todo", ""⟩, ⟨"since", "1.2"⟩], origin := some ⟨⟨"src/shapes.js"⟩, "shapes.js", 12⟩ }
    d.LineFits ∧ decodeText Doclet.read d.toJson.compact = .ok d ∧
      decodeText (readList Doclet.read)
        (Json.array ((Collection.ofList [d, d]).doclets.map Doclet.toJson)).pretty = .ok [d, d] := by
  intro d
  have fits : d.LineFits := by
    rintro _ ⟨⟩
    decide
  have both : ∀ d' ∈ [d, d], d'.LineFits := by simp [fits]
  exact ⟨fits, ((encoding_roundtrip.1 d).2 fits).1, ((encoding_roundtrip.2 [d, d]).2 both).2⟩

end RefDoc
