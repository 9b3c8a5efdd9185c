import RefDoc.Config.Basic
import RefDoc.Proofs.Options.Encoding

/-!
# Configurations survive being written

A configuration is read back from what is written of it, with the options within, and so are options
on their own. Nothing is dropped on the way: every section or option that is not known is kept and
written again (`configuration_rewritten`).
-/

namespace RefDoc

open Json

namespace SourceRules

/-- The rules, as they are written. -/
def written (r : SourceRules) : List (Written SourceRules) :=
  [.always "include" (readList readPath) (fun v r => { r with included := v }) (·.included)
      (fun _ => rfl) (.array (r.included.map ofPath)) r.included
      (reads_list _ fun p _ => reads_path p),
    .always "exclude" (readList readPath) (fun v r => { r with excluded := v }) (·.excluded)
      (fun _ => rfl) (.array (r.excluded.map ofPath)) r.excluded
      (reads_list _ fun p _ => reads_path p),
    .option "includePattern" readText (fun v r => { r with includePattern := v })
      (·.includePattern) (fun _ => rfl) .string r.includePattern fun s _ => text_given s,
    .option "excludePattern" readText (fun v r => { r with excludePattern := v })
      (·.excludePattern) (fun _ => rfl) .string r.excludePattern fun s _ => text_given s,
    .always "includeDotfiles" readBool (fun v r => { r with includeDotfiles := v })
      (·.includeDotfiles) (fun _ => rfl) (.bool r.includeDotfiles) r.includeDotfiles (reads_bool _)]

theorem toJson_eq (r : SourceRules) : r.toJson = .object (r.written.filterMap Written.member?) := by
  rw [Written.filterMap_member?]
  simp only [written, List.flatMap_cons, List.flatMap_nil, Written.member?_option,
    Written.member?_always, List.cons_append, List.nil_append, toJson, List.append_assoc]

theorem reads (r : SourceRules) : Reads SourceRules.read r.toJson r := by
  rw [toJson_eq]
  refine Written.reads_record r.written rfl (by decide) rfl ?_
  simp only [written, List.foldl_cons, List.foldl_nil, Written.apply_option, Written.apply_always,
    Option.or_none]

theorem distinct_toJson (r : SourceRules) : r.toJson.Distinct := by
  have different : (fields.map (·.name)).Nodup := by decide
  refine .object ?_ ?_
  · rw [Json.object.inj r.toJson_eq]
    exact (Written.names_sublist r.written).nodup different
  · simp only [List.forall_mem_append, forall_mem_ifSome, List.forall_mem_cons, distinct_paths,
      Distinct.string, Distinct.bool, List.not_mem_nil, IsEmpty.forall_iff, implies_true, and_self]

end SourceRules

namespace Config

/-- The options can be written, what goes to the parser is a value as it is read, and what is kept
aside is no section. -/
structure Storable (c : Config) : Prop where
  options : ∀ o ∈ c.options, o.Storable
  parser : ∀ v ∈ c.parser, v ≠ .null ∧ normal v = v
  foreign : Foreign fields c.extra

theorem openFields :
    OpenFields fields (fun key v c => { c with extra := c.extra.insert key v }) (·.extra) where
  different := by decide
  tidy := by
    simp only [fields, List.forall_mem_cons, List.not_mem_nil, IsEmpty.forall_iff, implies_true,
      and_true]
    and_intros <;>
      exact RecordField.tidy_of (fun _ _ => rfl) (fun _ _ => rfl) fun _ _ _ _ => rfl
  apart := by
    simp only [fields, List.pairwise_cons, List.forall_mem_cons, List.not_mem_nil,
      IsEmpty.forall_iff, implies_true, and_true, List.Pairwise.nil]
    and_intros <;> exact RecordField.apart_of fun _ _ _ => rfl
  kept _ _ _ := rfl

theorem storable_of_read {t : Tree} {c : Config} (read : Config.read t = .ok c) : c.Storable := by
  refine of_readOpenRecord (P := Storable) ?_ (fun key v c unknown normal storable => ?_) ?_ read
  · simp only [fields, List.forall_mem_cons, List.not_mem_nil, IsEmpty.forall_iff, implies_true,
      and_true]
    refine ⟨RecordField.keeps_of fun _ _ _ _ storable => ⟨storable.1, storable.2, storable.3⟩,
      RecordField.keeps_of fun _ _ _ _ storable => ⟨storable.1, storable.2, storable.3⟩,
      RecordField.keeps_of fun t v c read storable => ⟨storable.1, ?_, storable.3⟩,
      RecordField.keeps_of fun t o c read storable => ⟨?_, storable.2, storable.3⟩⟩
    · rintro v ⟨⟩
      obtain ⟨given, read⟩ := readOption_eq_some read
      refine ⟨?_, normal_of_readJson read⟩
      rintro rfl
      obtain ⟨stop, rfl⟩ := eq_null_of_readJson read
      exact given stop rfl
    · rintro o ⟨⟩
      exact Options.storable_of_read (readOption_eq_some read).2
  · exact ⟨storable.options, storable.parser, storable.foreign.insert unknown normal⟩
  · exact ⟨fun _ given => (nomatch given), fun _ given => (nomatch given), foreign_empty⟩

/-! ### Writing -/

/-- The sections, as they are written. -/
def written {c : Config} (storable : c.Storable) : List (Written Config) :=
  [.option "source" SourceRules.read (fun v c => { c with source := v }) (·.source) (fun _ => rfl)
      SourceRules.toJson c.source fun r _ => ⟨r.reads, nofun⟩,
    .option "plugins" (readList readText) (fun v c => { c with plugins := v }) (·.plugins)
      (fun _ => rfl) strings c.plugins fun _ _ => ⟨reads_list _ fun s _ => reads_text s, nofun⟩,
    .option "parser" readJson (fun v c => { c with parser := v }) (·.parser) (fun _ => rfl)
      id c.parser fun v given => by
        obtain ⟨value, normal⟩ := storable.parser v given
        refine ⟨?_, value⟩
        have reads := reads_json v
        rwa [normal] at reads,
    .option "opts" Options.read (fun v c => { c with options := v }) (·.options) (fun _ => rfl)
      Options.toJson c.options fun o given => ⟨Options.reads (storable.options o given), nofun⟩]

variable {c : Config}

theorem field_written (storable : c.Storable) : (written storable).map Written.field = fields := rfl

theorem filterMap_written (storable : c.Storable) :
    (written storable).filterMap Written.member? ++ c.extra.entries = c.members := by
  rw [Written.filterMap_member?, members]
  simp only [written, List.flatMap_cons, List.flatMap_nil, Written.member?_option,
    List.append_assoc, List.append_nil]

theorem apply_written (storable : c.Storable) :
    (written storable).foldl (fun r w => w.apply r) {} = { c with extra := ∅ } := by
  simp only [written, List.foldl_cons, List.foldl_nil, Written.apply_option, Option.or_none]

theorem reads (storable : c.Storable) : Reads Config.read c.toJson c := by
  refine Written.reads_openRecord (written storable) (field_written storable) (by decide)
    (filterMap_written storable) storable.foreign ?_
  have table : c.extra.entries.foldl (fun r e => { r with extra := r.extra.insert e.1 e.2 })
      { c with extra := ∅ } = { c with extra := .ofList c.extra.entries } :=
    List.foldl_hom (fun t => { c with extra := t }) fun _ _ => rfl
  rw [apply_written, table, Table.ofList_entries]

theorem distinct_toJson (storable : c.Storable) : c.toJson.Distinct := by
  refine Written.distinct_openRecord (written storable) (field_written storable) (by decide)
    (filterMap_written storable) storable.foreign ?_
  simp only [members, List.forall_mem_append, forall_mem_ifSome, distinct_strings,
    SourceRules.distinct_toJson, implies_true, true_and, id]
  refine ⟨⟨fun v given => ?_, fun o given => ?_⟩, storable.foreign.distinct⟩
  · rw [← (storable.parser v given).2]
    exact distinct_normal v
  · exact Options.distinct_toJson (storable.options o given)

theorem rewritten_opts {members : List (String × Json)} {v : Json}
    (rewritten : Rewritten fields (·.extra) toJson members c)
    (given : members.lookup "opts" = some v) (value : v ≠ .null) :
    ∃ o, decode Options.read v = .ok o ∧ c.options = some o ∧
      c.toJson.member? "opts" = some o.toJson := by
  have read := rewritten.known _ (List.mem_of_getElem? (i := 3) rfl) v given
  obtain ⟨options, read, same⟩ := RecordField.of_eq_ok.mp read
  have same : c.options = options := (congrArg Config.options same).symm
  cases options with
  | none => exact absurd (eq_null_of_ofJson (readOption_eq_none read)) value
  | some o =>
    refine ⟨o, Decoded.decode_eq_ok.mpr (readOption_eq_some read).2, same, ?_⟩
    simp [toJson, Json.member?, Config.members, List.lookup_append, lookup_ifSome, same]

end Config

/-- **Nothing is lost when settings are rewritten.** What is written of a configuration or of
options that were read is read as the same again, and names no member of an object twice. If they
were read from an object, the member of every section or option gave what there is, and any other
member is kept and written; so it is with the options within a configuration. -/
theorem configuration_rewritten :
    (∀ t c, Config.read t = .ok c → decode Config.read c.toJson = .ok c ∧ c.toJson.Distinct) ∧
    (∀ t o, Options.read t = .ok o → decode Options.read o.toJson = .ok o ∧ o.toJson.Distinct) ∧
    (∀ v c, decode Config.read v = .ok c → ∃ members, v = .object members ∧
      Rewritten Config.fields (·.extra) Config.toJson members c ∧
      ∀ w, members.lookup "opts" = some w → w ≠ .null → ∃ o, decode Options.read w = .ok o ∧
        c.options = some o ∧ c.toJson.member? "opts" = some o.toJson) ∧
    ∀ v o, decode Options.read v = .ok o → ∃ members, v = .object members ∧
      Rewritten Options.fields (·.extra) Options.toJson members o := by
  refine ⟨fun t c read => ?_, fun t o read => ?_, fun v c read => ?_, fun v o read => ?_⟩
  · have storable := Config.storable_of_read read
    exact ⟨(Config.reads storable).decode, Config.distinct_toJson storable⟩
  · have storable := Options.storable_of_read read
    exact ⟨(Options.reads storable).decode, Options.distinct_toJson storable⟩
  · have storable := Config.storable_of_read (Decoded.decode_eq_ok.mp read)
    have written : c.toJson = _ := congrArg Json.object (Config.filterMap_written storable).symm
    obtain ⟨members, object, rewritten⟩ :=
      Config.openFields.rewritten (Config.field_written storable) written rfl read
    exact ⟨members, object, rewritten, fun w => Config.rewritten_opts rewritten⟩
  · have written : o.toJson = _ := congrArg Json.object o.filterMap_written.symm
    exact Options.openFields.rewritten o.field_written written rfl read

/-- A pattern on its own, an option that is null, one that looks like a field and is none, and a
section for templates. -/
theorem configuration_rewritten_opts :
    let files : Json := .array [.string "a.js"]
    let c : Config :=
      { options := some { patterns := some ["core"], extra := .ofList [("files", files)] }
        extra := .ofList [("tags", .object [])] }
    let v : Json := .object [("tags", .object []),
      ("opts", .object [("match", .string "core"), ("readme", .null), ("files", files)])]
    decode Config.read v = .ok c ∧ decode Config.read c.toJson = .ok c ∧ c.toJson.Distinct ∧
      c.toJson.member? "tags" = some (.object []) := by
  intro files c v
  have read : decode Config.read v = .ok c := by rfl
  obtain ⟨again, distinct⟩ := configuration_rewritten.1 _ _ (Decoded.decode_eq_ok.mp read)
  obtain ⟨members, object, rewritten, -⟩ := configuration_rewritten.2.2.1 v c read
  have unknown : "tags" ∉ Config.fields.map (·.name) := by decide
  refine ⟨read, again, distinct, (rewritten.unknown "tags" unknown).2.trans ?_⟩
  rfl

end RefDoc
