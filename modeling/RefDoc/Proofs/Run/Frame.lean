import RefDoc.Proofs.Desk
import RefDoc.Proofs.FileTree
import RefDoc.Proofs.Run.History
import RefDoc.Run.Pipeline

/-!
# How a run begins and ends

The setup of a run is a matter of its arguments and of the files alone (`Pipeline.setup?`).
Configuring leaves the desk and the output as they are. Between asides it adds two things to the
history: the stage, and the arming of the gate, which a run of the self-checks goes without. However
a run goes on, it ends by entering one more stage (`Pipeline.run_ends`).
-/

namespace RefDoc

variable {σ : Type}

namespace Config

/-- The configuration at a place. -/
def atPlace (files : FileTree) : Place → Except Error Config
  | .standard => .ok standard
  | .file path =>
    (ofFile files path).map fun config =>
      if config.source.isSome then config else { config with source := some .standard }

/-- Loading a configuration only reads, and logs nothing of note. -/
theorem load_run (place : Place) (desk : Desk σ) :
    ∃ log : List Event, (∀ e ∈ log, e.Harmless) ∧
      (load place).run.run desk = (atPlace desk.files place, desk, log) := by
  cases place with
  | standard => exact ⟨[_], by simp [Event.Harmless, Event.debug], rfl⟩
  | file path =>
    simp only [load, atPlace, Attempt.bind_run, Attempt.files_run, Attempt.ofExcept_run]
    cases ofFile desk.files path with
    | error e => exact ⟨[], by simp, rfl⟩
    | ok config =>
      cases sourced : config.source.isSome with
      | true => exact ⟨[], by simp, by simp [Except.map, sourced]⟩
      | false =>
        refine ⟨[standardRulesEvent path], ?_, ?_⟩
        · simp [Event.Harmless, standardRulesEvent, Event.debug]
        · simp only [Except.map, sourced, Bool.false_eq_true, if_false]
          rfl

end Config

namespace Pipeline

/-- The setup of a run that finds these files. -/
def setup? (p : Pipeline σ) (files : FileTree) : Except Error Setup := do
  let cli ← p.arguments
  let place := Config.find files p.roots.root (cli.configure.map p.roots.workingDir.join)
  let config ← Config.atPlace files place
  .ok { options := cli.merge config.options, config, place }

/-- No source is found for the setup. -/
def FindsNothing (p : Pipeline σ) (desk : Desk σ) (s : Setup) : Prop :=
  ∃ inputs, ((Inputs.load (p.inputRequest s)).run.run desk).1 = .ok inputs ∧ inputs.files = []

theorem of_setup? {p : Pipeline σ} {files : FileTree} {s : Setup}
    (configured : p.setup? files = .ok s) :
    ∃ cli place, p.arguments = .ok cli ∧ Config.atPlace files place = .ok s.config ∧
      s.options = cli.merge s.config.options := by
  unfold setup? at configured
  cases read : p.arguments with
  | error e => rw [read] at configured; cases configured
  | ok cli =>
    rw [read] at configured
    simp only [bind, Except.bind] at configured
    split at configured
    · cases configured
    · cases configured
      exact ⟨cli, _, rfl, ‹_›, rfl⟩

/-- What is done about the gate once a run is configured. -/
def arming : Except Error Setup → List Happening
  | .ok s => if s.options.test then [] else [.armed s.options.pedantic]
  | .error _ => []

theorem setup_run (p : Pipeline σ) (desk : Desk σ) :
    ∃ log : List Event, (∀ e ∈ log, e.Harmless) ∧
      p.setup.run.run desk = (p.setup? desk.files, desk, log) := by
  simp only [setup, setup?, Attempt.bind_run, Attempt.ofExcept_run, Attempt.files_run,
    Attempt.pure_run]
  cases p.arguments with
  | error e => exact ⟨[], by simp, rfl⟩
  | ok cli =>
    obtain ⟨log, harmless, loaded⟩ := Config.load_run
      (Config.find desk.files p.roots.root (cli.configure.map p.roots.workingDir.join)) desk
    refine ⟨log, harmless, ?_⟩
    simp only [loaded, List.nil_append, bind, Except.bind]
    cases Config.atPlace desk.files _ with
    | error e => rfl
    | ok config => simp

open Run in
theorem adds_announce (setup : Setup) :
    (announce setup : Run σ Unit).Adds fun _ h result =>
      result = .ok () ∧ ∃ asides : List Happening, (∀ x ∈ asides, x.IsAside) ∧
        h = arming (.ok setup) ++ asides := by
  intro s
  let told : List Happening :=
    [.logged (.debug Options.versionLine), .logged (environmentEvent setup)]
  have asides : ∀ x ∈ told, x.IsAside := by
    simp [told, Happening.IsAside, Event.Harmless, environmentEvent, Event.debug]
  unfold AddsFrom
  cases test : setup.options.test with
  | true =>
    simp only [announce, run_bind, test, arming, modify_run]
    exact ⟨told, List.append_assoc s.history _ _, rfl, rfl, told, asides, rfl⟩
  | false =>
    let armed := (s.reporter.arm setup.options.pedantic).armedEvent
    simp only [announce, run_bind, test, arming, modify_run]
    refine ⟨_, ?_, ?_, rfl, .logged armed :: told, ?_, rfl⟩
    · simp [run_bind, arm_run, RunState.observe, RunState.record, told, armed]
    · rfl
    · exact List.forall_mem_cons.mpr ⟨.inl rfl, asides⟩

theorem adds_setup (p : Pipeline σ) :
    (Run.attempt p.setup).Adds fun _ h _ => ∀ x ∈ h, x.IsAside := by
  refine (Run.adds_attempt p.setup).mono ?_
  rintro - h result ⟨desk, rfl, rfl⟩
  obtain ⟨log, harmless, run⟩ := p.setup_run desk
  rw [run]
  exact List.forall_mem_map.mpr harmless

open Run in
theorem adds_configure (p : Pipeline σ) :
    p.configure.Adds fun _ h result =>
      ∃ first middle last : List Happening, (∀ x ∈ first ++ middle ++ last, x.IsAside) ∧
        h = first ++ [.entered .configuring] ++ middle ++ arming result ++ last := by
  refine ((adds_transition _).bind fun _ => (adds_tell _).bind fun _ =>
    p.adds_setup.bind fun setup => (adds_announce setup).bind fun _ => adds_pure setup).mono ?_
  rintro g h result (⟨_, -, _, -, ⟨⟩⟩ | ⟨_, _, _, rfl, ⟨left, rfl, -⟩, told⟩)
  obtain ⟨_, -, -, ⟨⟩⟩ | ⟨_, _, _, rfl, ⟨rfl, -⟩, ended⟩ := told
  have around {h : List Happening} (asides : ∀ x ∈ h, x.IsAside) :
      ∀ x ∈ .logged (leftEvent left .configuring) :: .told (.phase "Configuring") :: h,
        x.IsAside :=
    List.forall_mem_cons.mpr ⟨.inl rfl, List.forall_mem_cons.mpr ⟨trivial, asides⟩⟩
  rcases ended with ⟨e, rfl, read⟩ | ⟨setup, before, _, rfl, read, announced⟩
  · exact ⟨[_], .told _ :: _, [], by simpa using around read, by simp [arming]⟩
  · obtain ⟨_, -, ⟨⟩, -⟩ | ⟨_, _, _, rfl, ⟨-, told, asides, rfl⟩, rfl, rfl⟩ := announced
    have all : ∀ x ∈ before ++ told, x.IsAside := List.forall_mem_append.mpr ⟨read, asides⟩
    exact ⟨[_], .told _ :: before, told, by simpa using around all, by simp⟩

/-- Configuring only reads. -/
theorem configure_run (p : Pipeline σ) (s : RunState σ) :
    (p.configure.run s).1 = p.setup? s.desk.files ∧
      (p.configure.run s).2.desk = s.desk ∧
      (p.configure.run s).2.printed = s.printed ∧ (p.configure.run s).2.output = s.output := by
  obtain ⟨log, -, read⟩ := p.setup_run s.desk
  have performed (s' : RunState σ) (same : s'.desk = s.desk) :
      s'.perform p.setup.run = (p.setup? s.desk.files, s'.observe log) := by
    rw [RunState.perform, same, read, ← same]
  simp only [configure, Run.run_bind, Run.transition_run, Run.phase, Run.tell, Run.record_run,
    Run.attempt_run]
  rw [performed]
  · cases p.setup? s.desk.files with
    | error e => exact ⟨rfl, rfl, rfl, rfl⟩
    | ok setup =>
      cases test : setup.options.test <;> simp only [announce, test] <;>
        exact ⟨rfl, rfl, rfl, rfl⟩
  · rfl

theorem configure_ok (p : Pipeline σ) (start : RunState σ) {setup : Setup}
    (configured : p.setup? start.desk.files = .ok setup) :
    ∃ s, p.configure.run start = (.ok setup, s) ∧
      s.desk = start.desk ∧ s.printed = start.printed ∧ s.output = start.output := by
  obtain ⟨given, same⟩ := p.configure_run start
  exact ⟨_, Prod.ext (given.trans configured) rfl, same⟩

theorem command_run {p : Pipeline σ} {start s : RunState σ} {setup : Setup}
    (ran : p.configure.run start = (.ok setup, s)) :
    p.command.run start = (p.carryOut setup).run s := by
  rw [command, Run.bind_of_ok ran]

/-- But for the arming, nothing in the configuring of a run is of any concern to the gate. -/
theorem adds_configure_calm (p : Pipeline σ) :
    p.configure.Adds fun _ h result => ∃ before after : List Happening,
      (∀ x ∈ before, x.IsCalm) ∧ (∀ x ∈ after, x.IsAside) ∧
        h = before ++ arming result ++ after := by
  refine p.adds_configure.mono ?_
  rintro - h result ⟨first, middle, last, asides, rfl⟩
  simp only [List.forall_mem_append] at asides
  obtain ⟨⟨before, between⟩, after⟩ := asides
  refine ⟨first ++ [.entered .configuring] ++ middle, last, ?_, after, rfl⟩
  simp only [List.forall_mem_append, List.forall_mem_singleton]
  exact ⟨⟨fun x member => (before x member).calm, trivial⟩,
    fun x member => (between x member).calm⟩

/-- Unless the self-checks are asked for, a run that is configured has its gate armed. -/
theorem configure_armed (p : Pipeline σ) (start : RunState σ) {setup : Setup}
    (configured : p.setup? start.desk.files = .ok setup) (tested : setup.options.test = false) :
    ∃ s before last, p.configure.run start = (.ok setup, s) ∧
      (s.desk = start.desk ∧ s.printed = start.printed ∧ s.output = start.output) ∧
      (∀ x ∈ before, x.IsCalm) ∧ (∀ x ∈ last, x.IsAside) ∧
      s.history = start.history ++ before ++ .armed setup.options.pedantic :: last ∧
      s.reporter.gate = start.reporter.gate.arm setup.options.pedantic := by
  obtain ⟨s, ran, same⟩ := p.configure_ok start configured
  obtain ⟨h, history, gate, before, last, calm, asides, rfl⟩ := p.adds_configure_calm start
  rw [ran, arming, tested] at history gate
  refine ⟨s, before, last, ran, same, calm, asides, ?_, ?_⟩
  · simpa using history
  · rw [gate]
    simp only [Gate.followAll_append, Gate.followAll_calm _ calm, Gate.followAll_asides _ asides]
    rfl

/-! ### The end -/

/-- How a run ends whose command ended in a given way. -/
def Ends (outcome : Outcome) (last : Stage) : Except Error CommandResult → Prop
  | .ok c => last = .done ∧ outcome.error = none ∧ outcome.doclets = c.doclets
  | .error e =>
    last = .failed ∧ outcome.error = some e ∧ outcome.doclets = none ∧ outcome.exitCode = 1

theorem run_ends (p : Pipeline σ) (start : RunState σ) :
    (p.run start).1.stages = (p.run start).2.stages ∧ ∃ last before,
      (p.run start).2.history = (p.command.run start).2.history ++
        [.logged (Run.leftEvent before last), .entered last] ∧
      Ends (p.run start).1 last (p.command.run start).1 := by
  unfold run
  rcases p.command.run start with ⟨e | c, s⟩
  · refine ⟨rfl, .failed, s.stages.getLast?, ?_, rfl, rfl, rfl, rfl⟩
    simp [Run.transition_run, RunState.observe, RunState.record]
  · refine ⟨rfl, .done, s.stages.getLast?, ?_, rfl, rfl, rfl⟩
    simp [Run.transition_run, RunState.observe, RunState.record]

theorem run_of_ok {p : Pipeline σ} {start : RunState σ} {c : CommandResult}
    (ended : (p.command.run start).1 = .ok c) :
    (p.run start).1.error = none ∧ (p.run start).1.doclets = c.doclets ∧
      (p.run start).1.exitCode = max c.exitCode ((p.run start).2.reporter.gate.exitCode true) := by
  unfold run
  rcases ran : p.command.run start with ⟨e | _, s⟩ <;> rw [ran] at ended <;> cases ended
  exact ⟨rfl, rfl, rfl⟩

theorem run_of_error {p : Pipeline σ} {start : RunState σ} {e : Error}
    (ended : (p.command.run start).1 = .error e) :
    (p.run start).1.error = some e ∧ (p.run start).1.doclets = none ∧
      (p.run start).1.exitCode = 1 := by
  obtain ⟨-, last, before, -, ends⟩ := p.run_ends start
  rw [ended] at ends
  exact ends.2

theorem run_leaves (p : Pipeline σ) (start : RunState σ) :
    (p.run start).2.desk = (p.command.run start).2.desk ∧
      (p.run start).2.printed = (p.command.run start).2.printed := by
  unfold run
  rcases p.command.run start with ⟨e | c, s⟩ <;> exact ⟨rfl, rfl⟩

/-! ### A small run -/

theorem encoding_default :
    (Encoding.ofName Options.defaultEncoding : Act σ Encoding) = pure .utf8 := by
  have named : Encoding.ofLowerName? (String.ofList
      (Options.defaultEncoding.toList.map Text.asciiLower)) = some .utf8 := by decide
  rw [Encoding.ofName]
  simp only [named]

/-- A run in the directory where relative paths start, without any extensions. -/
def plain (arguments : List String) : Pipeline Unit :=
  { roots := { root := ⟨""⟩, workingDir := ⟨""⟩, arguments }, catalog := {} }

/-- That directory, with one empty script in it. -/
def lone : Desk Unit := ⟨⟨[(["a.js"], .file [])], []⟩, ()⟩

theorem lone_node : lone.files.node ⟨"a.js"⟩ = .ok (["a.js"], .file []) :=
  FileTree.IsName.node_file ⟨rfl, rfl, rfl, by decide, rfl⟩ rfl

theorem lone_source : Parser.readSource lone.files .utf8 ⟨"a.js"⟩ = .ok "" := by
  rw [Parser.readSource, FileTree.readBytes, lone_node]
  rfl

/-- What a run is given that is asked to document one script. -/
def scriptRequest : InputRequest :=
  { positional := [⟨"a.js"⟩], rules := some .standard, workingDir := ⟨""⟩ }

/-- What it finds. -/
def scriptInputs : Inputs := { candidates := [⟨"a.js"⟩], files := [⟨"a.js"⟩] }

theorem script_inputs {desk : Desk σ} {place : Place} {bytes : Text.Bytes}
    (script : desk.files.node ⟨"a.js"⟩ = .ok (place, .file bytes)) :
    ∃ log : List Event, (∀ e ∈ log, e.Harmless) ∧
      (Inputs.load scriptRequest).run.run desk =
        (.ok scriptInputs, desk, log) := by
  have role : (⟨"a.js"⟩ : Path).role? = none := by decide +kernel
  have paths : scriptRequest.paths = [⟨"a.js"⟩] := rfl
  have candidates : scriptRequest.candidates = [⟨"a.js"⟩] := by
    simp [InputRequest.candidates, paths, role]
  have claims : scriptRequest.claims = [] := by
    simp only [InputRequest.claims, paths, List.filterMap, role]
    rfl
  have collected : Inputs.collect desk.files scriptRequest =
      ({ candidates := [⟨"a.js"⟩] },
        [.debug "source list built" [("candidates", toString 1)]]) := by
    simp only [Inputs.collect, candidates, claims]
    rfl
  obtain ⟨filter, read, accepted⟩ : ∃ filter,
      SourceFilter.ofRules .standard ⟨""⟩ = .ok filter ∧ filter.accepts ⟨"a.js"⟩ = true :=
    ⟨_, rfl, rfl⟩
  have joined : (⟨""⟩ : Path).join ⟨"a.js"⟩ = ⟨"a.js"⟩ := rfl
  have scanned (depth : Nat) : desk.files.scan filter depth ⟨""⟩ [⟨"a.js"⟩] = ([⟨"a.js"⟩],
      [.debug "scan complete"
        [("visited", toString 1), ("kept", toString 1), ("depth", toString depth)]]) := by
    simp [FileTree.scan, FileTree.visitAll, FileTree.visit, joined, script, accepted,
      Except.toOption]
  have rules : scriptRequest.rules = some .standard := rfl
  have dir : scriptRequest.workingDir = ⟨""⟩ := rfl
  refine ⟨[.debug "source list built" [("candidates", toString 1)],
    .debug "scan complete" [("visited", toString 1), ("kept", toString 1), ("depth", toString 1)],
    .info "source files resolved" [("files", toString 1)]], ?_, ?_⟩
  · simp [Event.Harmless, Event.debug, Event.info]
  · simp only [Inputs.load, Attempt.bind_run, Attempt.files_run, Attempt.act_run, Act.logAll_run,
      collected, rules, dir, read, Attempt.ofExcept_run, scanned, List.isEmpty_cons,
      Bool.false_eq_true, if_false]
    rfl

/-- No configuration is found there. -/
theorem setup_plain (arguments : List String) (cli : Options)
    (read : Options.ofArguments arguments = .ok cli) (unnamed : cli.configure = none) :
    (plain arguments).setup.run.run lone =
      (.ok { options := cli.merge none, config := .standard, place := .standard }, lone,
        [.debug "no config file found, using built-in defaults"]) := by
  have absent {path : Path} {name : String} (is : lone.files.IsName path name)
      (free : lone.files.at? (lone.files.home ++ [name]) = none) :
      lone.files.isFile path = false := by
    simp [FileTree.isFile, is.node_none free]
  have found : Config.find lone.files (plain arguments).roots.root none = .standard := by
    have conf : lone.files.isFile ⟨"conf.json"⟩ = false :=
      absent ⟨rfl, rfl, rfl, by decide, rfl⟩ rfl
    have sample : lone.files.isFile ⟨"conf.json.EXAMPLE"⟩ = false :=
      absent ⟨rfl, rfl, rfl, by decide, rfl⟩ rfl
    have names : Config.fileNames.map (fun name => (plain arguments).roots.root / ⟨name⟩) =
        [⟨"conf.json"⟩, ⟨"conf.json.EXAMPLE"⟩] := rfl
    simp [Config.find, names, conf, sample]
  have given : (plain arguments).arguments = .ok cli := by
    show (do let o ← Options.ofArguments arguments; .ok { o with files := [] ++ o.files }) = _
    rw [read]
    rfl
  simp only [setup, given, Attempt.bind_run, Attempt.ofExcept_run, Attempt.files_run, unnamed,
    Option.map_none, found]
  rfl

theorem setup?_plain (arguments : List String) (cli : Options)
    (read : Options.ofArguments arguments = .ok cli) (unnamed : cli.configure = none) :
    (plain arguments).setup? lone.files =
      .ok { options := cli.merge none, config := .standard, place := .standard } := by
  obtain ⟨log, -, ran⟩ := (plain arguments).setup_run lone
  rw [setup_plain arguments cli read unnamed] at ran
  exact (congrArg Prod.fst ran).symm

end Pipeline

end RefDoc
