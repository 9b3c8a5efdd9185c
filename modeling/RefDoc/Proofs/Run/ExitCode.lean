import RefDoc.Proofs.Run.Pedantic
import RefDoc.Proofs.Run.Stages

/-!
# Exit codes

A gate fails a run once it has seen an event that its policy minds (`Gate.failing_followAll`). A run
arms its gate at most once, when it is configured (`Pipeline.run_arms`), so that the exit code can
be read off how the run ended, its checks and what was logged after that (`Pipeline.run_exitCode`).
-/

namespace RefDoc

variable {σ α β : Type}

/-! ### What is logged after arming -/

/-- An event of that level is logged after the gate has been armed. -/
def LoggedArmed (h : List Happening) (level : Level) : Prop :=
  ∃ before pedantic after e, h = before ++ .armed pedantic :: after ∧ .logged e ∈ after ∧
    e.level = level

theorem loggedArmed_iff {before after : List Happening} {pedantic : Bool} {level : Level}
    (plain : ∀ x ∈ before, ¬ x.IsArming) :
    LoggedArmed (before ++ .armed pedantic :: after) level ↔
      ∃ e, .logged e ∈ after ∧ e.level = level := by
  constructor
  · rintro ⟨before', pedantic', after', e, cut, logged, same⟩
    refine ⟨e, ?_, same⟩
    rcases List.append_eq_append_iff.mp cut with ⟨between, rfl, rest⟩ | ⟨between, rfl, rest⟩
    · cases between with
      | nil => cases rest; exact logged
      | cons x between =>
        cases rest
        exact List.mem_append_right _ (List.mem_cons_of_mem _ logged)
    · cases between with
      | nil => cases rest; exact logged
      | cons x between =>
        cases rest
        exact absurd trivial
          (plain _ (List.mem_append_right _ List.mem_cons_self))
  · rintro ⟨e, logged, same⟩
    exact ⟨before, pedantic, after, e, rfl, logged, same⟩

/-! ### What a gate minds -/

/-- Whether an event of that level fails a run under the policy. -/
def Policy.Minds : Policy → Level → Prop
  | disarmed, _ => False
  | lenient, level => level = .error
  | pedantic, level => level = .error ∨ level = .warn

namespace Gate

theorem failing_observe (g : Gate) (e : Event) :
    (g.observe e).failing = true ↔ g.failing = true ∨ g.policy.Minds e.level := by
  cases policy : g.policy <;> cases level : e.level <;>
    simp [observe, policy, level, Policy.Minds]

/-- The gate fails the run exactly if it did so before or minds something that is logged. -/
theorem failing_followAll {g : Gate} {h : List Happening} (plain : ∀ x ∈ h, ¬ x.IsArming) :
    (g.followAll h).failing = true ↔
      g.failing = true ∨ ∃ e, .logged e ∈ h ∧ g.policy.Minds e.level := by
  induction h generalizing g with
  | nil => simp
  | cons x h ih =>
    obtain ⟨head, tail⟩ := List.forall_mem_cons.mp plain
    rw [followAll_cons, ih tail, policy_follow g head]
    cases x with
    | logged e =>
      rw [follow, failing_observe, or_assoc]
      refine or_congr_right ⟨?_, ?_⟩
      · rintro (minds | ⟨e', logged, minds⟩)
        · exact ⟨e, List.mem_cons_self, minds⟩
        · exact ⟨e', List.mem_cons_of_mem _ logged, minds⟩
      · rintro ⟨e', logged, minds⟩
        rcases List.mem_cons.mp logged with same | logged
        · cases same
          exact .inl minds
        · exact .inr ⟨e', logged, minds⟩
    | armed => exact absurd trivial head
    | _ => simp [follow]

/-- A gate that is never armed fails nothing. -/
theorem failing_unarmed {h : List Happening} (plain : ∀ x ∈ h, ¬ x.IsArming) :
    (({} : Gate).followAll h).failing = false := by
  rw [Bool.eq_false_iff, ne_eq, failing_followAll plain]
  rintro (failing | ⟨e, -, minds⟩)
  · cases failing
  · exact minds

/-- A new gate that is armed once fails the run exactly if it minds something logged after that. -/
theorem failing_armed {before after : List Happening} {pedantic : Bool}
    (plain : ∀ x ∈ before, ¬ x.IsArming) (plain' : ∀ x ∈ after, ¬ x.IsArming) :
    (({} : Gate).followAll (before ++ .armed pedantic :: after)).failing = true ↔
      LoggedArmed (before ++ .armed pedantic :: after) .error ∨
        pedantic = true ∧ LoggedArmed (before ++ .armed pedantic :: after) .warn := by
  rw [followAll_append, followAll_cons, failing_followAll plain', loggedArmed_iff plain,
    loggedArmed_iff plain]
  have unseen := failing_unarmed plain
  cases pedantic with
  | false => simp [follow, arm, Policy.Minds, unseen]
  | true => simp [follow, arm, Policy.Minds, unseen, and_or_left, exists_or]

end Gate

namespace Run

/-! ### What parts of a run give -/

/-- If the part ends well, its value has the property. -/
def Returns (r : Run σ α) (P : α → Prop) : Prop := ∀ s v, (r.run s).1 = .ok v → P v

theorem returns_pure {v : α} {P : α → Prop} (holds : P v) : (pure v : Run σ α).Returns P := by
  rintro s _ ⟨⟩
  exact holds

theorem ok_of_bind {r : Run σ α} {f : α → Run σ β} {s : RunState σ} {v : β}
    (ended : ((r >>= f).run s).1 = .ok v) :
    ∃ u s', r.run s = (.ok u, s') ∧ ((f u).run s').1 = .ok v := by
  rw [run_bind] at ended
  rcases ran : r.run s with ⟨_ | u, s'⟩ <;> rw [ran] at ended
  · cases ended
  · exact ⟨u, s', rfl, ended⟩

theorem Returns.bind {r : Run σ α} {f : α → Run σ β} {P : α → Prop} {Q : β → Prop}
    (first : r.Returns P) (next : ∀ v, P v → (f v).Returns Q) : (r >>= f).Returns Q := by
  intro s v ended
  obtain ⟨u, s', ran, ended⟩ := ok_of_bind ended
  exact next u (first s u (congrArg Prod.fst ran)) s' v ended

theorem Returns.after {r : Run σ α} {f : α → Run σ β} {Q : β → Prop}
    (next : ∀ v, (f v).Returns Q) : (r >>= f).Returns Q :=
  have any : r.Returns fun _ => True := fun _ _ _ => trivial
  any.bind fun v _ => next v

end Run

namespace Pipeline

open Run

variable (p : Pipeline σ) (s : Setup)

/-! ### The gate of a run -/

variable {p s} in
theorem asks_iff {desk : Desk σ} {wish : Setup → Prop} (configured : p.setup? desk.files = .ok s) :
    p.Asks desk wish ↔ wish s :=
  ⟨fun ⟨_, given, holds⟩ => by cases configured.symm.trans given; exact holds,
    fun holds => ⟨s, configured, holds⟩⟩

theorem guards_selfCheck {strict : Prop} :
    Guards strict anyGate (p.selfCheck s) anyGate := by
  have compiled : Unescalated (Check.chooser s.options.patterns) := by
    unfold Check.chooser
    split
    · exact nofun
    · split <;> exact nofun
  have chosen : Guards strict anyGate
      (Run.attempt (Attempt.ofExcept (Check.chooser s.options.patterns)) : Run σ _) anyGate :=
    guards_attempt fun _ m fatal => (compiled m fatal).elim
  exact chosen.then fun _ => (guards_act _).then fun _ => (guards_print _).then fun _ =>
    guards_pure _

/-- The gate is not armed again once a run is configured. -/
theorem plain_carryOut :
    (p.carryOut s).Adds fun _ h _ => ∀ x ∈ h, ¬ x.IsArming := by
  have guarded : Guards p.catalog.SilentTemplates anyGate (p.carryOut s) anyGate := by
    cases tested : s.options.test with
    | false => exact (p.guards_carryOut s tested).toAny
    | true =>
      unfold carryOut
      rw [tested]
      refine guards_checkFatal.then fun _ => ?_
      cases s.options.help with
      | true => exact guards_printHelp.toAny
      | false => exact (p.guards_selfCheck s).weaken (fun _ _ => trivial) fun _ => id
  exact fun start => (guarded start).mono fun g h _ kept => (kept trivial).1.plain

/-- Configuring arms the gate as the setup asks, and nothing else does. -/
theorem configure_arms (start : RunState σ) :
    p.configure.AddsFrom start fun _ h result =>
      result = p.setup? start.desk.files ∧ ∃ before after : List Happening,
        (∀ x ∈ before, ¬ x.IsArming) ∧ (∀ x ∈ after, ¬ x.IsArming) ∧
          h = before ++ arming result ++ after := by
  obtain ⟨given, -⟩ := p.configure_run start
  obtain ⟨h, history, gate, before, after, calm, asides, rfl⟩ := p.adds_configure_calm start
  exact ⟨_, history, gate, given, before, after, fun x member => (calm x member).plain,
    fun x member => (asides x member).calm.plain, rfl⟩

theorem run_gate (start : RunState σ) :
    (p.run start).2.reporter.gate = (p.command.run start).2.reporter.gate := by
  unfold run
  rcases p.command.run start with ⟨e | c, s⟩ <;> exact Gate.observe_harmless _ (.inl rfl)

/-- The gate follows the history of a run, in which it is armed once the run is configured, unless
for the self-checks, and never again. -/
theorem run_arms (start : RunState σ) :
    ∃ before after : List Happening,
      (∀ x ∈ before, ¬ x.IsArming) ∧ (∀ x ∈ after, ¬ x.IsArming) ∧
      (p.run start).2.history =
        start.history ++ (before ++ arming (p.setup? start.desk.files) ++ after) ∧
      (p.run start).2.reporter.gate =
        start.reporter.gate.followAll
          (before ++ arming (p.setup? start.desk.files) ++ after) := by
  obtain ⟨h, history, gate, commanded⟩ :=
    (p.configure_arms start).bind fun s s' _ => p.plain_carryOut s s'
  obtain ⟨before, after, plain, plain', rfl⟩ : ∃ before after : List Happening,
      (∀ x ∈ before, ¬ x.IsArming) ∧ (∀ x ∈ after, ¬ x.IsArming) ∧
        h = before ++ arming (p.setup? start.desk.files) ++ after := by
    rcases commanded with
      ⟨e, -, configured, before, after, plain, plain', rfl⟩ |
      ⟨s, _, rest, rfl, ⟨configured, before, after, plain, plain', rfl⟩, carried⟩
    · exact ⟨before, after, plain, plain', by rw [configured]⟩
    · refine ⟨before, after ++ rest, plain, ?_, ?_⟩
      · exact List.forall_mem_append.mpr ⟨plain', carried⟩
      · rw [configured, List.append_assoc]
  obtain ⟨-, last, left, history', -⟩ := p.run_ends start
  let ending : List Happening := [.logged (leftEvent left last), .entered last]
  refine ⟨before, after ++ ending, plain, ?_, ?_, ?_⟩
  · exact List.forall_mem_append.mpr ⟨plain', by simp [ending, Happening.IsArming]⟩
  · rw [history', show (p.command.run start).2.history = _ from history]
    simp [ending]
  · rw [run_gate, show (p.command.run start).2.reporter.gate = _ from gate, ← List.append_assoc,
      Gate.followAll_append _ _ ending]
    exact (Gate.observe_harmless _ (.inl rfl)).symm

/-- What the gate of a run that started with a new one has to say: it fails the run exactly if it
was armed and something that its policy minds was logged after that. -/
theorem run_failing (start : RunState σ) (fresh : start.reporter.gate = {}) :
    ∃ added, (p.run start).2.history = start.history ++ added ∧
      ((p.run start).2.reporter.gate.failing = true ↔
        p.Asks start.desk fun s => s.options.test = false ∧
          (LoggedArmed added .error ∨ s.options.pedantic = true ∧ LoggedArmed added .warn)) := by
  obtain ⟨before, after, plain, plain', history, gate⟩ := p.run_arms start
  refine ⟨_, history, ?_⟩
  rw [gate, fresh]
  cases configured : p.setup? start.desk.files with
  | error e =>
    have unarmed : ∀ x ∈ before ++ arming (.error e) ++ after, ¬ x.IsArming := by
      simpa [arming] using List.forall_mem_append.mpr ⟨plain, plain'⟩
    rw [Gate.failing_unarmed unarmed]
    simp [Asks, configured]
  | ok s =>
    rw [asks_iff configured, arming]
    cases tested : s.options.test with
    | true =>
      have unarmed : ∀ x ∈ before ++ [] ++ after, ¬ x.IsArming := by
        simpa using List.forall_mem_append.mpr ⟨plain, plain'⟩
      simpa using Gate.failing_unarmed unarmed
    | false => simpa using Gate.failing_armed plain plain'

/-! ### What commands give -/

/-- Some check that the setup chooses fails on the desk. -/
def ChecksFail (desk : Desk σ) : Prop :=
  ∃ chooser, Check.chooser s.options.patterns = .ok chooser ∧
    ∃ c ∈ ((Check.all s.place s.config s.options p.locator p.catalog).run desk).1,
      Check.chosen chooser c ∧ c.failed

theorem returns_printHelp : (printHelp : Run σ CommandResult).Returns (·.exitCode = 0) :=
  .after fun _ => .after fun _ => returns_pure rfl

theorem returns_document : (p.document s).Returns (·.exitCode = 0) := by
  have concluded (doclets : Collection) :
      (conclude doclets : Run σ CommandResult).Returns (·.exitCode = 0) :=
    .after fun _ => .after fun _ => .after fun _ => returns_pure rfl
  refine .after fun _ => .after fun _ => .after fun inputs => .after fun _ => ?_
  cases inputs.files.isEmpty with
  | true =>
    exact .after fun _ => returns_printHelp.bind fun _ zero => .after fun _ => returns_pure zero
  | false =>
    refine .after fun (parser, doclets) => .after fun doclets => ?_
    cases s.options.explain <;> exact .after fun _ => concluded doclets

theorem returns_selfCheck {start : RunState σ} {c : CommandResult}
    (ended : ((p.selfCheck s).run start).1 = .ok c) :
    (c.exitCode = 0 ∨ c.exitCode = 1) ∧ (c.exitCode = 1 ↔ p.ChecksFail s start.desk) := by
  obtain ⟨chooser, s₁, chose, ended⟩ := ok_of_bind ended
  obtain ⟨checks, s₂, made, ended⟩ := ok_of_bind ended
  obtain ⟨_, s₃, -, ended⟩ := ok_of_bind ended
  rw [attempt_run] at chose
  rw [act_run] at made
  have compiled : Check.chooser s.options.patterns = .ok chooser := congrArg Prod.fst chose
  have same : s₁.desk = start.desk := (congrArg (·.2.desk) chose).symm
  have all :
      checks = ((Check.all s.place s.config s.options p.locator p.catalog).run start.desk).1 :=
    same ▸ (Except.ok.inj (congrArg Prod.fst made)).symm
  have code :
      c.exitCode = if (checks.filter (Check.chosen chooser)).any Check.failed then 1 else 0 :=
    (congrArg CommandResult.exitCode (Except.ok.inj ended)).symm
  have fails : p.ChecksFail s start.desk ↔
      (checks.filter (Check.chosen chooser)).any Check.failed = true := by
    simp [ChecksFail, compiled, all]
  rw [code, fails]
  cases (checks.filter (Check.chosen chooser)).any Check.failed <;> simp

theorem returns_carryOut {start : RunState σ} {c : CommandResult}
    (ended : ((p.carryOut s).run start).1 = .ok c) :
    (c.exitCode = 0 ∨ c.exitCode = 1) ∧
      (c.exitCode = 1 ↔
        s.options.help = false ∧ s.options.test = true ∧ p.ChecksFail s start.desk) := by
  obtain ⟨_, s', checked, ended⟩ := ok_of_bind ended
  obtain rfl : start = s' := congrArg Prod.snd checked
  cases help : s.options.help with
  | true =>
    have zero : c.exitCode = 0 := returns_printHelp start c (by simpa [help] using ended)
    simp [zero]
  | false =>
    cases test : s.options.test with
    | true =>
      simpa using p.returns_selfCheck s (by simpa [help, test] using ended)
    | false =>
      have zero : c.exitCode = 0 := by
        cases version : s.options.version with
        | true =>
          have shown : (Run.print (Options.versionLine ++ "\n") >>= fun _ =>
              return {} : Run σ CommandResult).Returns (·.exitCode = 0) :=
            .after fun _ => returns_pure rfl
          exact shown start c (by simpa [help, test, version] using ended)
        | false => exact p.returns_document s start c (by simpa [help, test, version] using ended)
      simp [zero]

/-- **When a run has exit code 1.** The run of a new reporter has the exit code 0 or 1, and 1
exactly if it ended with an error, was a self-check that failed, or is failed by what was logged
after its gate was armed: an error, or a warning if the run is pedantic. -/
theorem run_exitCode (start : RunState σ) (fresh : start.reporter.gate = {}) :
    let outcome := (p.run start).1
    ∃ added, (p.run start).2.history = start.history ++ added ∧
      (outcome.exitCode = 0 ∨ outcome.exitCode = 1) ∧
      (outcome.exitCode = 1 ↔
        outcome.error.isSome ∨
        (p.Asks start.desk fun s =>
          s.options.help = false ∧ s.options.test = true ∧ p.ChecksFail s start.desk) ∨
        p.Asks start.desk fun s => s.options.test = false ∧
          (LoggedArmed added .error ∨ s.options.pedantic = true ∧ LoggedArmed added .warn)) := by
  intro outcome
  obtain ⟨added, history, failing⟩ := p.run_failing start fresh
  refine ⟨added, history, ?_⟩
  rw [← failing]
  cases ended : (p.command.run start).1 with
  | error e =>
    obtain ⟨error, -, code⟩ := run_of_error ended
    simp [outcome, error, code]
  | ok c =>
    obtain ⟨error, -, code⟩ := run_of_ok ended
    obtain ⟨s, s', ran, carried⟩ := ok_of_bind ended
    obtain ⟨given, desk, -⟩ := p.configure_run start
    rw [ran] at given desk
    obtain ⟨bound, fails⟩ := p.returns_carryOut s carried
    rw [show s'.desk = start.desk from desk] at fails
    rw [asks_iff given.symm, show outcome.error = _ from error, show outcome.exitCode = _ from code,
      Gate.exitCode, ← fails]
    cases (p.run start).2.reporter.gate.failing <;> rcases bound with zero | one <;>
      simp [*]

/-! ### A run that misses its package file -/

/-- The package file that is named is not there, which is logged, and the run goes on. -/
def unread : Pipeline Unit := plain ["--package", "b"]

def unreadSetup : Setup :=
  { options := ({ package := some ⟨"b"⟩ } : Options).merge none
    config := .standard
    place := .standard }

theorem documentNothing_run {s : RunState σ} (taking : s.output = {}) :
    ∃ s', (documentNothing : Run σ CommandResult).run s = (.ok {}, s') ∧
      s'.reporter.gate = s.reporter.gate := by
  have printed (s : RunState σ) (taking : s.output = {}) (text : String) :
      (Run.print text).run s = (.ok (), { s with printed := s.printed ++ text }) :=
    print_taken (by rw [taking])
  rw [documentNothing, bind_of_ok (printed s taking _), printHelp, bind_assoc,
    bind_of_ok (printed { s with printed := s.printed ++ noInputs } taking _)]
  exact ⟨_, rfl, Gate.observe_harmless _ (.inl rfl)⟩

/-- The run ends well, without anything to document, but not with the exit code 0. -/
theorem run_exitCode_unread :
    let start : RunState Unit := { desk := lone }
    let outcome := (unread.run start).1
    outcome.error = none ∧ outcome.exitCode = 1 ∧
      ∃ added, (unread.run start).2.history = start.history ++ added ∧
        (outcome.exitCode = 1 ↔
          outcome.error.isSome ∨
          (unread.Asks lone fun s =>
            s.options.help = false ∧ s.options.test = true ∧ unread.ChecksFail s lone) ∨
          unread.Asks lone fun s => s.options.test = false ∧
            (LoggedArmed added .error ∨ s.options.pedantic = true ∧ LoggedArmed added .warn)) := by
  intro start outcome
  obtain ⟨added, history, bound, code⟩ := unread.run_exitCode start rfl
  have configured : unread.setup? start.desk.files = .ok unreadSetup :=
    setup?_plain _ { package := some ⟨"b"⟩ } rfl rfl
  obtain ⟨s, _, _, ran, ⟨desk, -, output⟩, -, -, -, armed⟩ :=
    unread.configure_armed start configured rfl
  have gate : s.reporter.gate = { policy := .lenient } := armed
  let ready := ({ s with reporter := s.reporter.start }).record
    (.told (.phase "Discovering source files"))
  let found := ready.observe
    [unreadableEvent, .debug "source list built" [("candidates", toString 0)]]
  have loaded : (Run.attempt (Inputs.load (unread.inputRequest unreadSetup))).run ready =
      (.ok {}, found) := by
    have same : ready.desk = lone := desk
    rw [attempt_run, RunState.perform, same,
      show unread.inputRequest unreadSetup = unpackaged.inputRequest unpackagedSetup from rfl,
      unpackaged_inputs, ← same]
  have failing : found.reporter.gate = { policy := .lenient, failing := true } := by
    show (s.reporter.gate.observe _).observe _ = _
    rw [gate]
    rfl
  have checked : (Run.checkFatal : Run Unit Unit).run found = (.ok (), found) := by
    rw [checkFatal_run, failing]
    rfl
  obtain ⟨s', ended, same⟩ := documentNothing_run (s := found) output
  have commanded : unread.command.run start = (.ok {}, s') := by
    rw [command_run ran, carryOut, run_bind, checkFatal_run, gate]
    show (unread.document unreadSetup).run s = _
    rw [document, bind_of_ok (report_run _ s), phase, Run.tell, bind_of_ok (record_run _ _),
      bind_of_ok loaded, bind_of_ok checked]
    exact ended
  obtain ⟨error, -, exits⟩ := run_of_ok (congrArg Prod.fst commanded)
  rw [run_gate, commanded, same, failing] at exits
  exact ⟨error, exits, added, history, code⟩

end Pipeline

end RefDoc
