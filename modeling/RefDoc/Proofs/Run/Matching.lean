import RefDoc.Proofs.Pattern.Joined
import RefDoc.Proofs.Run.SelfCheck

/-!
# Checks chosen by patterns

A run that is asked for its self-checks executes those whose names one of the given patterns occurs
in (`Pipeline.command_matching`), as long as no pattern but the last leaves a flag on. The patterns
are joined before they are read: a flag that is left on reaches the patterns behind it
(`Pipeline.matched_in_any_case`), and patterns that do not go together are an error of the
configuration.
-/

namespace RefDoc

variable {σ : Type}

open Pattern (Joinable Occurs flagsAfter)

namespace Check

/-- The check has a name that one of the patterns occurs in, or there are no patterns. -/
def Matches (texts : List String) (c : Check) : Bool :=
  texts.isEmpty || texts.any (Occurs · c.name.toList)

theorem chooser_eq {texts : List String} (given : texts ≠ [])
    (valid : (Pattern.ofText? ("|".intercalate texts)).isSome) :
    chooser (some texts) = .ok (Pattern.ofText? ("|".intercalate texts)) := by
  obtain ⟨t, ts, rfl⟩ := List.exists_cons_of_ne_nil given
  obtain ⟨q, read⟩ := Option.isSome_iff_exists.mp valid
  rw [chooser, Option.getD_some]
  simp only [read]

theorem matches_congr {texts : List String} {c d : Check} (same : c.name = d.name) :
    c.Matches texts = d.Matches texts := by
  rw [Matches, Matches, same]

theorem chosen_congr {pattern : Option Pattern} {c d : Check} (same : c.name = d.name) :
    chosen pattern c = chosen pattern d := by
  rw [chosen, chosen, same]

/-- What chooses checks chooses those with a matching name, if the patterns go together. -/
theorem chooser_joined {patterns : Option (List String)}
    (valid : ∀ t ∈ patterns.getD [], (Pattern.ofText? t).isSome)
    (plain : ∀ t ∈ (patterns.getD []).dropLast, flagsAfter t = {}) :
    (Joinable (patterns.getD []) → ∃ q, chooser patterns = .ok q ∧
      ∀ c, chosen q c = c.Matches (patterns.getD [])) ∧
    (¬ Joinable (patterns.getD []) →
      chooser patterns = .error (.config "invalid --match pattern: ")) := by
  unfold chooser
  cases given : patterns.getD [] with
  | nil =>
    refine ⟨fun _ => ⟨none, rfl, fun c => rfl⟩, fun unfit => (unfit ⟨?_, ?_, ?_⟩).elim⟩
    · exact List.Pairwise.nil
    · exact Nat.zero_le _
    · exact fun several => absurd several (by simp)
  | cons t ts =>
    rw [given] at valid plain
    obtain ⟨reads, fails⟩ := Pattern.ofText?_joined (List.cons_ne_nil t ts) valid plain
    constructor
    · intro fit
      obtain ⟨q, read, occurs⟩ := reads fit
      refine ⟨some q, by simp only [read], fun c => ?_⟩
      rw [chosen, Option.all_some, occurs]
      rfl
    · intro unfit
      simp only [fails unfit]

end Check

namespace Pipeline

open Run

variable (p : Pipeline σ) {s : Setup}

/-- A run that is asked for its self-checks comes to them. -/
theorem command_tested {start : RunState σ} (configured : p.setup? start.desk.files = .ok s)
    (asked : s.options.help = false ∧ s.options.test = true)
    (unstopped : start.reporter.gate.fatal = none) :
    ∃ here : RunState σ, here.desk = start.desk ∧ here.printed = start.printed ∧
      here.output = start.output ∧ p.command.run start = (p.selfCheck s).run here := by
  obtain ⟨here, ran, desk, printed, output⟩ := p.configure_ok start configured
  obtain ⟨h, -, gate, before, after, calm, asides, rfl⟩ := p.adds_configure_calm start
  obtain ⟨help, test⟩ := asked
  have unarmed : arming (.ok s) = [] := by simp [arming, test]
  have unraised : here.reporter.gate = start.reporter.gate := by
    rw [ran, unarmed] at gate
    rw [gate]
    simp only [Gate.followAll_append, Gate.followAll_calm _ calm, Gate.followAll_asides _ asides]
    rfl
  have checked : (checkFatal : Run σ Unit).run here = (.ok (), here) := by
    rw [checkFatal_run, unraised, Gate.check_eq, unstopped]
  refine ⟨here, desk, printed, output, ?_⟩
  rw [command_run ran, carryOut, help, test]
  exact bind_of_ok checked _

/-- **Checks are chosen by any of the patterns.** A run that is asked for its self-checks executes
and reports those with a name that one of the patterns occurs in, or all if there are no patterns.
Every pattern has to be one alone, and none but the last may leave a flag on. If the patterns do not
go together, the run ends with an error. -/
theorem command_matching {start : RunState σ} (configured : p.setup? start.desk.files = .ok s)
    (asked : s.options.help = false ∧ s.options.test = true)
    (unstopped : start.reporter.gate.fatal = none)
    (valid : ∀ t ∈ s.options.patterns.getD [], (Pattern.ofText? t).isSome)
    (plain : ∀ t ∈ (s.options.patterns.getD []).dropLast, flagsAfter t = {}) :
    ∃ here : RunState σ, here.desk.files = start.desk.files ∧ here.printed = start.printed ∧
      here.output = start.output ∧
      (Joinable (s.options.patterns.getD []) →
        here.desk =
          ((Check.all s.place s.config s.options p.locator p.catalog).run start.desk).2.1 ∧
        let checks := (Check.ofFiles start.desk.files s.place s.config s.options p.locator
          p.catalog).filter (Check.Matches (s.options.patterns.getD []))
        p.command.run start =
          (do
            Run.print (Check.report checks)
            return { exitCode := if checks.any Check.failed then 1 else 0 } :
              Run σ CommandResult).run here) ∧
      (¬ Joinable (s.options.patterns.getD []) → here.desk = start.desk ∧
        p.command.run start = (.error (.config "invalid --match pattern: "), here)) := by
  obtain ⟨tested, desk, printed, output, ran⟩ := p.command_tested configured asked unstopped
  obtain ⟨fits, unfit⟩ := Check.chooser_joined valid plain
  by_cases fit : Joinable (s.options.patterns.getD [])
  · obtain ⟨q, chose, matching⟩ := fits fit
    obtain ⟨here, desk', files, printed', output', checked⟩ := p.selfCheck_chosen s chose tested
    rw [desk] at desk' files checked
    rw [funext matching] at checked
    exact ⟨here, files, printed'.trans printed, output'.trans output,
      fun _ => ⟨desk', ran.trans checked⟩, fun other => absurd fit other⟩
  · have chose : (Run.attempt (Attempt.ofExcept (Check.chooser s.options.patterns)) :
        Run σ (Option Pattern)).run tested =
          (.error (.config "invalid --match pattern: "), tested.observe []) := by
      rw [unfit fit]
      rfl
    refine ⟨tested.observe [], congrArg _ desk, printed, output, fun other => absurd other fit,
      fun _ => ⟨desk, ?_⟩⟩
    rw [ran, selfCheck, run_bind, chose]

/-! ### A directory with one script -/

/-- What the options come to of a run that is asked there for chosen checks. -/
def loneSetup (patterns : List String) : Setup :=
  { options := ({ test := true, patterns := some patterns } : Options).merge none
    config := .standard
    place := .standard }

/-- The check of the configuration there. The other one is of a template that is not there. -/
def loneCheck : Check := ⟨"config built-in defaults", none⟩

def loneChecks (arguments patterns : List String) : List Check :=
  Check.ofFiles lone.files .standard .standard (loneSetup patterns).options
    (plain arguments).locator (plain arguments).catalog

theorem filter_loneChecks (arguments patterns : List String) {choose : Check → Bool}
    (blind : ∀ {c d : Check}, c.name = d.name → choose c = choose d)
    (untaken : choose ⟨"template templates/default", none⟩ = false) :
    (loneChecks arguments patterns).filter choose = [loneCheck].filter choose := by
  let template := Check.ofTemplate lone.files (plain arguments).locator (plain arguments).catalog
    "templates/default"
  have left : choose template = false := (blind (Check.name_ofResult _ _)).trans untaken
  have all : loneChecks arguments patterns = [loneCheck] ++ [template] := rfl
  have none : [template].filter choose = [] := List.filter_cons_of_neg (by simp [left])
  rw [all, List.filter_append, none, List.append_nil]

theorem report_loneCheck {arguments patterns : List String} {choose : Check → Bool}
    (chosen : (loneChecks arguments patterns).filter choose = [loneCheck]) (here : RunState Unit) :
    let checks := (loneChecks arguments patterns).filter choose
    (do
      Run.print (Check.report checks)
      return { exitCode := if checks.any Check.failed then 1 else 0 } :
        Run Unit CommandResult).run here =
      (do
        Run.print (Check.report [loneCheck])
        return {} : Run Unit CommandResult).run here := by
  dsimp only
  rw [chosen]
  rfl

/-- A flag that is set in a group does not reach the next pattern. -/
theorem command_matching_group :
    ∃ here : RunState Unit, here.desk = lone ∧ here.printed = "" ∧
      (plain ["-T", "-m", "(?i:CONFIG)", "-m", "Template"]).command.run { desk := lone } =
        (do
          Run.print (Check.report [loneCheck])
          return {} : Run Unit CommandResult).run here := by
  let arguments := ["-T", "-m", "(?i:CONFIG)", "-m", "Template"]
  let patterns := ["(?i:CONFIG)", "Template"]
  let start : RunState Unit := { desk := lone }
  have configured : (plain arguments).setup? start.desk.files = .ok (loneSetup patterns) :=
    setup?_plain arguments { test := true, patterns := some patterns } rfl rfl
  obtain ⟨here, files, printed, -, fits, -⟩ := command_matching (plain arguments) configured
    ⟨rfl, rfl⟩ rfl (by decide +kernel) (by decide +kernel)
  have unnamed : patterns.map Pattern.groupNames = [[], []] := by decide +kernel
  have fit : Joinable patterns :=
    ⟨by rw [unnamed]; simp, by decide +kernel, by decide +kernel⟩
  have chosen : (loneChecks arguments patterns).filter (Check.Matches patterns) = [loneCheck] := by
    rw [filter_loneChecks arguments patterns Check.matches_congr (by decide +kernel)]
    decide +kernel
  have desk : here.desk = lone := congrArg (fun files => (⟨files, ()⟩ : Desk Unit)) files
  exact ⟨here, desk, printed, (fits fit).2.trans (report_loneCheck chosen here)⟩

/-- **A flag goes on to the next pattern.** Each of two texts is a pattern, and none of them occurs
in the name of a check; joined they choose one all the same, as the second is read in any case. -/
theorem matched_in_any_case :
    let arguments := ["-T", "-m", "(?i)zzz", "-m", "CONFIG"]
    let patterns := ["(?i)zzz", "CONFIG"]
    (plain arguments).setup? lone.files = .ok (loneSetup patterns) ∧
      (∀ t ∈ patterns, (Pattern.ofText? t).isSome) ∧
      (loneChecks arguments patterns).filter (Check.Matches patterns) = [] ∧
      ((plain arguments).run { desk := lone }).2.printed = Check.report [loneCheck] ∧
      Check.report [loneCheck] ≠ Check.report [] := by
  intro arguments patterns
  let start : RunState Unit := { desk := lone }
  have configured : (plain arguments).setup? start.desk.files = .ok (loneSetup patterns) :=
    setup?_plain arguments { test := true, patterns := some patterns } rfl rfl
  refine ⟨configured, by decide +kernel, ?_, ?_, by decide +kernel⟩
  · rw [filter_loneChecks arguments patterns Check.matches_congr (by decide +kernel)]
    decide +kernel
  · let q := Pattern.ofText? ("|".intercalate patterns)
    have chose : Check.chooser (loneSetup patterns).options.patterns = .ok q :=
      Check.chooser_eq (List.cons_ne_nil _ _) (by decide +kernel)
    obtain ⟨tested, desk, printed, output, ran⟩ :=
      (plain arguments).command_tested configured ⟨rfl, rfl⟩ rfl
    obtain ⟨here, -, -, printed', output', checked⟩ :=
      (plain arguments).selfCheck_chosen (loneSetup patterns) chose tested
    have chosen : (loneChecks arguments patterns).filter (Check.chosen q) = [loneCheck] := by
      rw [filter_loneChecks arguments patterns Check.chosen_congr (by decide +kernel)]
      decide +kernel
    have desk : tested.desk = lone := desk
    have reported := report_loneCheck chosen here
    rw [desk] at checked
    have taken : here.output.take here.printed (Check.report [loneCheck]) =
        (Check.report [loneCheck], none) := by
      rw [output', output]
    rw [((plain arguments).run_leaves _).2, ran, checked.trans reported,
      bind_of_ok (print_taken taken), printed', printed]
    rfl

end Pipeline

end RefDoc
