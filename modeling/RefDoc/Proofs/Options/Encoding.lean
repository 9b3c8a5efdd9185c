import RefDoc.Options.Basic
import RefDoc.Proofs.Json.Open

/-!
# Options survive being written

Whatever options are read, they are read again from what is written of them (`Options.reads`), since
what is kept aside for templates is never an option (`Options.storable_of_read`).
-/

namespace RefDoc.Options

open Json

/-- The readme is not rendered, and what is kept aside is no option. -/
structure Storable (o : Options) : Prop where
  unrendered : o.readmeHtml = none
  foreign : Foreign fields o.extra

/-- The options do not interfere with each other. -/
theorem openFields :
    OpenFields fields (fun key v o => { o with extra := o.extra.insert key v }) (·.extra) where
  different := by decide
  tidy := by
    simp only [fields, List.forall_mem_cons, List.not_mem_nil, IsEmpty.forall_iff, implies_true,
      and_true]
    and_intros <;>
      exact RecordField.tidy_of (fun _ _ => rfl) (fun _ _ => rfl) fun _ _ _ _ => rfl
  apart := by
    simp only [fields, List.pairwise_cons, List.forall_mem_cons, List.not_mem_nil,
      IsEmpty.forall_iff, implies_true, and_true, List.Pairwise.nil]
    and_intros <;> exact RecordField.apart_of fun _ _ _ => rfl
  kept _ _ _ := rfl

theorem storable_of_read {t : Tree} {o : Options} (read : Options.read t = .ok o) : o.Storable := by
  refine of_readOpenRecord (P := Storable) ?_ (fun key v o unknown normal storable => ?_) ?_ read
  · simp only [fields, List.forall_mem_cons, List.not_mem_nil, IsEmpty.forall_iff, implies_true,
      and_true]
    and_intros <;> exact RecordField.keeps_of fun _ _ _ _ storable => ⟨storable.1, storable.2⟩
  · exact ⟨storable.unrendered, storable.foreign.insert unknown normal⟩
  · exact ⟨rfl, foreign_empty⟩

/-! ### Writing -/

theorem reads_patterns (l : List String) : Reads readPatterns (strings l) (some l) := by
  intro t shown
  have list : readList readText (.ofJson (strings l)) = .ok l :=
    reads_list l (fun s _ => reads_text s) _ (shows_ofJson _)
  rw [readPatterns, raw_of_shows _ shown]
  simp only [strings] at list
  simp only [strings, bind, Except.bind, list]
  rfl

/-- The options, as they are written. -/
def written (o : Options) : List (Written Options) :=
  [.list "_" readPath (fun v o => { o with files := v }) (·.files) (fun _ => rfl) ofPath o.files
      fun p _ => reads_path p,
    .option "configure" readPath (fun v o => { o with configure := v }) (·.configure)
      (fun _ => rfl) ofPath o.configure fun p _ => path_given p,
    .option "destination" readPath (fun v o => { o with destination := v }) (·.destination)
      (fun _ => rfl) ofPath o.destination fun p _ => path_given p,
    .option "encoding" readText (fun v o => { o with encoding := v }) (·.encoding) (fun _ => rfl)
      .string o.encoding fun s _ => text_given s,
    .always "debug" readBool (fun v o => { o with debug := v }) (·.debug) (fun _ => rfl)
      (.bool o.debug) o.debug (reads_bool _),
    .always "verbose" readBool (fun v o => { o with verbose := v }) (·.verbose) (fun _ => rfl)
      (.bool o.verbose) o.verbose (reads_bool _),
    .always "pedantic" readBool (fun v o => { o with pedantic := v }) (·.pedantic) (fun _ => rfl)
      (.bool o.pedantic) o.pedantic (reads_bool _),
    .always "help" readBool (fun v o => { o with help := v }) (·.help) (fun _ => rfl)
      (.bool o.help) o.help (reads_bool _),
    .always "test" readBool (fun v o => { o with test := v }) (·.test) (fun _ => rfl)
      (.bool o.test) o.test (reads_bool _),
    .always "version" readBool (fun v o => { o with version := v }) (·.version) (fun _ => rfl)
      (.bool o.version) o.version (reads_bool _),
    .always "explain" readBool (fun v o => { o with explain := v }) (·.explain) (fun _ => rfl)
      (.bool o.explain) o.explain (reads_bool _),
    .always "recurse" readBool (fun v o => { o with recurse := v }) (·.recurse) (fun _ => rfl)
      (.bool o.recurse) o.recurse (reads_bool _),
    .always "nocolor" readBool (fun v o => { o with nocolor := v }) (·.nocolor) (fun _ => rfl)
      (.bool o.nocolor) o.nocolor (reads_bool _),
    .option "tutorials" readPath (fun v o => { o with tutorials := v }) (·.tutorials)
      (fun _ => rfl) ofPath o.tutorials fun p _ => path_given p,
    .option "template" readText (fun v o => { o with template := v }) (·.template) (fun _ => rfl)
      .string o.template fun s _ => text_given s,
    .option "package" readPath (fun v o => { o with package := v }) (·.package) (fun _ => rfl)
      ofPath o.package fun p _ => path_given p,
    .option "readme" readPath (fun v o => { o with readme := v }) (·.readme) (fun _ => rfl)
      ofPath o.readme fun p _ => path_given p,
    .optional "match" readPatterns (fun v o => { o with patterns := v }) (·.patterns)
      (fun _ => rfl) (o.patterns.map strings) o.patterns <| by
        intro v given
        obtain ⟨l, patterns, rfl⟩ := Option.map_eq_some_iff.mp given
        rw [patterns]
        exact reads_patterns l]

theorem field_written (o : Options) : o.written.map Written.field = fields := rfl

theorem filterMap_written (o : Options) :
    o.written.filterMap Written.member? ++ o.extra.entries = o.members := by
  have patterns : ((o.patterns.map strings).map fun v => ("match", v)).toList =
      ifSome "match" strings o.patterns := by
    cases o.patterns <;> rfl
  rw [Written.filterMap_member?, members, ← patterns]
  simp only [written, List.flatMap_cons, List.flatMap_nil, Written.member?_list,
    Written.member?_option, Written.member?_always, List.append_assoc, List.cons_append,
    List.nil_append, List.append_nil]
  rfl

theorem apply_written (o : Options) :
    o.written.foldl (fun r w => w.apply r) {} = { o with readmeHtml := none, extra := ∅ } := by
  have patterns : (if (o.patterns.map strings).isSome then o.patterns else none) = o.patterns := by
    cases o.patterns <;> rfl
  have list {α : Type} (l : List α) : (if l = [] then [] else l) = l := by cases l <;> rfl
  simp only [written, List.foldl_cons, List.foldl_nil, Written.apply_list, Written.apply_option,
    Written.apply_always, Written.optional, Option.or_none, list, patterns]

theorem reads {o : Options} (storable : o.Storable) : Reads Options.read o.toJson o := by
  refine Written.reads_openRecord o.written o.field_written (by decide) o.filterMap_written
    storable.foreign ?_
  have table : o.extra.entries.foldl (fun r e => { r with extra := r.extra.insert e.1 e.2 })
      { o with readmeHtml := none, extra := ∅ } =
      { o with readmeHtml := none, extra := .ofList o.extra.entries } :=
    List.foldl_hom (fun t => { o with readmeHtml := none, extra := t }) fun _ _ => rfl
  rw [apply_written, table, Table.ofList_entries, ← storable.unrendered]

theorem distinct_toJson {o : Options} (storable : o.Storable) : o.toJson.Distinct := by
  refine Written.distinct_openRecord o.written o.field_written (by decide) o.filterMap_written
    storable.foreign ?_
  have path (p : Path) : (ofPath p).Distinct := .string p.text
  simp only [members, List.forall_mem_append, forall_mem_ifAny, forall_mem_ifSome,
    List.forall_mem_cons, distinct_paths, distinct_strings, path, Distinct.string, Distinct.bool,
    List.not_mem_nil, IsEmpty.forall_iff, implies_true, true_and]
  exact storable.foreign.distinct

end RefDoc.Options
