import RefDoc.Options.Basic
import RefDoc.Proofs.Table

/-!
# Tiers of options

Filling options from a lower tier is associative, and what stands above already adds nothing below
(`orElse_absorb`), so that merging again is harmless (`merge_again`). How a field is filled from one
tier (`IsValued`, `IsFlag`) says what it is with any number of tiers (`OfTiers`).
-/

namespace RefDoc.Options

/-! ### Two and three tiers -/

theorem orElse_assoc (a b c : Options) : (a.orElse b).orElse c = a.orElse (b.orElse c) := by
  simp only [orElse, Option.or_assoc, Bool.or_assoc, Table.union_assoc]

theorem orElse_self (a : Options) : a.orElse a = a := by
  simp only [orElse, Option.or_self, Bool.or_self, Table.union_self]

theorem or_absorb {α : Type} (x y : Option α) : (x.or y).or x = x.or y := by
  cases x with
  | none => rw [Option.none_or, Option.or_none]
  | some v => rfl

theorem or_absorb_flag (x y : Bool) : (x || y || x) = (x || y) := by
  cases x with
  | false => rw [Bool.false_or, Bool.or_false]
  | true => rfl

theorem union_absorb {α : Type} (t t' : Table α) : (t.union t').union t = t.union t' :=
  Table.eq_of_get? fun name => by simp only [Table.get?_union, or_absorb]

/-- A tier that stands above adds nothing below. -/
theorem orElse_absorb (a b : Options) : (a.orElse b).orElse a = a.orElse b := by
  simp only [orElse, or_absorb, or_absorb_flag, union_absorb]

theorem merge_again (cli : Options) (config : Option Options) :
    merge (merge cli config) config = merge cli config := by
  let between := config.getD {}
  calc (((cli.orElse between).orElse defaults).orElse between).orElse defaults
      = (cli.orElse ((between.orElse defaults).orElse between)).orElse defaults := by
        simp only [orElse_assoc]
    _ = (cli.orElse (between.orElse defaults)).orElse defaults := by rw [orElse_absorb]
    _ = (cli.orElse between).orElse (defaults.orElse defaults) := by simp only [orElse_assoc]
    _ = (cli.orElse between).orElse defaults := by rw [orElse_self]

/-! ### Any number of tiers -/

/-- The lower tier is asked where the upper one has no value. -/
def IsValued {α : Type} (value : Options → Option α) : Prop :=
  ∀ a b : Options, value (a.orElse b) = (value a).or (value b)

/-- The lower tier may set what the upper one does not. -/
def IsFlag (flag : Options → Bool) : Prop := ∀ a b : Options, flag (a.orElse b) = (flag a || flag b)

theorem isValued_extra (key : String) : IsValued fun o => o.extra.get? key := fun a b =>
  Table.get?_union a.extra b.extra key

section Fold

variable {α : Type} {value : Options → Option α} {flag : Options → Bool}

theorem IsValued.foldl (valued : IsValued value) (first : Options) (lower : List Options) :
    value (lower.foldl orElse first) = (first :: lower).findSome? value := by
  induction lower generalizing first with
  | nil => cases given : value first <;> simp [given]
  | cons next lower ih =>
    rw [List.foldl_cons, ih, List.findSome?_cons, List.findSome?_cons, valued]
    cases value first with
    | none => rw [Option.none_or, List.findSome?_cons]
    | some v => rfl

theorem IsFlag.foldl (is : IsFlag flag) (first : Options) (lower : List Options) :
    flag (lower.foldl orElse first) = (first :: lower).any flag := by
  induction lower generalizing first with
  | nil => simp
  | cons next lower ih =>
    rw [List.foldl_cons, ih, List.any_cons, List.any_cons, List.any_cons, is, Bool.or_assoc]

theorem files_foldl (first : Options) (lower : List Options) :
    (lower.foldl orElse first).files = first.files := by
  induction lower generalizing first with
  | nil => rfl
  | cons next lower ih => exact ih (first.orElse next)

end Fold

/-- What options have to be that are made of tiers: a value is that of the first tier that has one,
a flag is set if any tier sets it, and files are those of the first tier. -/
structure OfTiers (first : Options) (lower : List Options) (o : Options) : Prop where
  files : o.files = first.files
  configure : o.configure = (first :: lower).findSome? (·.configure)
  destination : o.destination = (first :: lower).findSome? (·.destination)
  encoding : o.encoding = (first :: lower).findSome? (·.encoding)
  debug : o.debug = (first :: lower).any (·.debug)
  verbose : o.verbose = (first :: lower).any (·.verbose)
  pedantic : o.pedantic = (first :: lower).any (·.pedantic)
  help : o.help = (first :: lower).any (·.help)
  test : o.test = (first :: lower).any (·.test)
  version : o.version = (first :: lower).any (·.version)
  explain : o.explain = (first :: lower).any (·.explain)
  recurse : o.recurse = (first :: lower).any (·.recurse)
  nocolor : o.nocolor = (first :: lower).any (·.nocolor)
  tutorials : o.tutorials = (first :: lower).findSome? (·.tutorials)
  template : o.template = (first :: lower).findSome? (·.template)
  package : o.package = (first :: lower).findSome? (·.package)
  readme : o.readme = (first :: lower).findSome? (·.readme)
  patterns : o.patterns = (first :: lower).findSome? (·.patterns)
  readmeHtml : o.readmeHtml = (first :: lower).findSome? (·.readmeHtml)
  extra : ∀ key, o.extra.get? key = (first :: lower).findSome? (·.extra.get? key)

theorem ofTiers_foldl (first : Options) (lower : List Options) :
    OfTiers first lower (lower.foldl orElse first) := by
  have valued {α : Type} (value : Options → Option α) (is : IsValued value) :=
    is.foldl first lower
  have flag (flag : Options → Bool) (is : IsFlag flag) := is.foldl first lower
  exact
    { files := files_foldl first lower
      configure := valued (·.configure) fun _ _ => rfl
      destination := valued (·.destination) fun _ _ => rfl
      encoding := valued (·.encoding) fun _ _ => rfl
      debug := flag (·.debug) fun _ _ => rfl
      verbose := flag (·.verbose) fun _ _ => rfl
      pedantic := flag (·.pedantic) fun _ _ => rfl
      help := flag (·.help) fun _ _ => rfl
      test := flag (·.test) fun _ _ => rfl
      version := flag (·.version) fun _ _ => rfl
      explain := flag (·.explain) fun _ _ => rfl
      recurse := flag (·.recurse) fun _ _ => rfl
      nocolor := flag (·.nocolor) fun _ _ => rfl
      tutorials := valued (·.tutorials) fun _ _ => rfl
      template := valued (·.template) fun _ _ => rfl
      package := valued (·.package) fun _ _ => rfl
      readme := valued (·.readme) fun _ _ => rfl
      patterns := valued (·.patterns) fun _ _ => rfl
      readmeHtml := valued (·.readmeHtml) fun _ _ => rfl
      extra := fun key => valued (·.extra.get? key) (isValued_extra key) }

/-- **Options are filled from tiers lawfully.** How tiers are grouped makes no difference; options
made of any number of tiers have what the first tier with it gives; and to merge again changes
nothing. -/
theorem tiers_lawful :
    (∀ a b c : Options, (a.orElse b).orElse c = a.orElse (b.orElse c)) ∧
      (∀ (first : Options) (lower : List Options),
        OfTiers first lower (lower.foldl orElse first)) ∧
      ∀ (cli : Options) (config : Option Options),
        merge (merge cli config) config = merge cli config :=
  ⟨orElse_assoc, ofTiers_foldl, merge_again⟩

end RefDoc.Options
