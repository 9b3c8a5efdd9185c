import RefDoc.Proofs.Extension.Loading
import RefDoc.Proofs.Run.Leading

/-!
# Pedantic runs

Fatal errors come from the gate, and apart from it only from a template that makes one up. In a
pedantic run every part of the pipeline keeps to the gate, so that the first error that is logged
ends it: no further stage is entered, no further file is taken up, and no template is called that
was not called before (`Pipeline.run_stopped`).
-/

namespace RefDoc

variable {σ α β : Type}

/-! ### Where fatal errors do not come from -/

/-- The result is no fatal error. -/
def Unescalated (r : Except Error α) : Prop := ∀ m, r ≠ .error (.fatal m)

theorem unescalated_ok (v : α) : Unescalated (.ok v : Except Error α) := nofun

theorem Unescalated.bind {r : Except Error α} {f : α → Except Error β} (first : Unescalated r)
    (next : ∀ v, Unescalated (f v)) : Unescalated (r >>= f) := by
  cases r with
  | error e => exact fun m ended => first m (by cases ended; rfl)
  | ok v => exact next v

theorem Unescalated.map {r : Except Error α} (f : α → β) (first : Unescalated r) :
    Unescalated (f <$> r) := by
  cases r with
  | error e => exact fun m ended => first m (by cases ended; rfl)
  | ok v => exact unescalated_ok (f v)

theorem unescalated_mapError {ε : Type} {r : Except ε α} {f : ε → Error}
    (mild : ∀ e m, f e ≠ .fatal m) : Unescalated (r.mapError f) := by
  cases r with
  | error e => exact fun m ended => mild e m (Except.error.inj ended)
  | ok v => exact unescalated_ok v

namespace Attempt

def NeverFatal (a : Attempt σ α) : Prop := ∀ desk, Unescalated (a.run.run desk).1

theorem neverFatal_pure (v : α) : (pure v : Attempt σ α).NeverFatal := fun _ => unescalated_ok v

theorem neverFatal_act (a : Act σ α) : (act a).NeverFatal := fun _ => by
  rw [act_run]
  exact unescalated_ok _

theorem neverFatal_ofExcept {r : Except Error α} (mild : Unescalated r) :
    (ofExcept r : Attempt σ α).NeverFatal := fun _ => mild

theorem NeverFatal.bind {a : Attempt σ α} {f : α → Attempt σ β} (first : a.NeverFatal)
    (next : ∀ v, (f v).NeverFatal) : (a >>= f).NeverFatal := by
  intro desk m
  have before := first desk
  rw [bind_run]
  rcases ended : a.run.run desk with ⟨e | v, desk', log⟩ <;> rw [ended] at before
  · exact fun fatal => before m (by cases fatal; rfl)
  · exact next v desk' m

theorem neverFatal_mapM {f : α → Attempt σ β} (each : ∀ v, (f v).NeverFatal) (l : List α) :
    (l.mapM f).NeverFatal := by
  induction l with
  | nil => exact neverFatal_pure []
  | cons v l ih =>
    rw [List.mapM_cons]
    exact (each v).bind fun _ => ih.bind fun _ => neverFatal_pure _

end Attempt

open Attempt

theorem SourceFilter.unescalated_ofRules (rules : SourceRules) (workingDir : Path) :
    Unescalated (ofRules rules workingDir) := by
  have compiled (rule text : String) : Unescalated (compile rule text) := by
    unfold compile
    split <;> exact nofun
  refine (compiled _ _).bind fun included => ?_
  cases rules.excludePattern with
  | none => exact (unescalated_ok none).bind fun _ => unescalated_ok _
  | some text => exact ((compiled _ _).map _).bind fun _ => unescalated_ok _

theorem Inputs.neverFatal_load (r : InputRequest) : (load r : Attempt σ Inputs).NeverFatal := by
  refine (neverFatal_act _).bind fun files => (neverFatal_act _).bind fun _ => ?_
  cases r.rules with
  | none => exact (neverFatal_act _).bind fun _ => neverFatal_pure _
  | some rules =>
    dsimp only
    split
    · exact neverFatal_pure _
    · exact (neverFatal_ofExcept (SourceFilter.unescalated_ofRules _ _)).bind fun _ =>
        (neverFatal_act _).bind fun _ => (neverFatal_act _).bind fun _ =>
          (neverFatal_act _).bind fun _ => neverFatal_pure _

theorem ResolvedPlugin.neverFatal_load (catalog : Catalog σ) (p : ResolvedPlugin) :
    (p.load catalog).NeverFatal := by
  refine (neverFatal_act _).bind fun files => (neverFatal_ofExcept ?_).bind fun _ =>
    (neverFatal_act _).bind fun _ => neverFatal_pure _
  refine (unescalated_mapError nofun).bind fun entry => ?_
  split <;> exact nofun

theorem ParseJob.neverFatal_parser (j : ParseJob σ) : j.parser.NeverFatal := by
  unfold parser
  cases j.config.plugins with
  | none => exact (neverFatal_pure _).bind fun _ => neverFatal_pure _
  | some specifiers =>
    exact (neverFatal_act _).bind fun files => (neverFatal_act _).bind fun _ =>
      (neverFatal_mapM (ResolvedPlugin.neverFatal_load j.catalog) _).bind fun _ =>
        (neverFatal_act _).bind fun _ => neverFatal_pure _

theorem Template.unescalated_implementation (files : FileTree) (catalog : Catalog σ)
    (location : Location) : Unescalated (implementation files catalog location) := by
  have entered : Unescalated (entry files location) := by
    unfold entry
    split
    · exact nofun
    · split
      · exact nofun
      · split <;> exact nofun
  refine entered.bind fun name => ?_
  split <;> exact nofun

theorem TutorialShelf.unescalated_addSettings (s : TutorialShelf) (name : String) (path : Path)
    (text : String) : Unescalated (s.addSettings name path text) := by
  unfold addSettings
  dsimp only
  split
  · exact (unescalated_mapError nofun).bind fun _ => unescalated_ok _
  · exact (unescalated_mapError nofun).bind fun _ => unescalated_ok _

theorem TutorialShelf.unescalated_addFile (files : FileTree) (s : TutorialShelf)
    (f : String × TutorialFile × Path) : Unescalated (s.addFile files f) := by
  obtain ⟨name, kind, path⟩ := f
  refine (unescalated_mapError nofun).bind fun text => ?_
  cases kind with
  | markdown | html => exact unescalated_ok _
  | settings => exact (unescalated_addSettings _ _ _ _).bind fun _ => unescalated_ok _

theorem TutorialShelf.unescalated_addFiles (files : FileTree) (s : TutorialShelf)
    (fs : List (String × TutorialFile × Path)) : Unescalated (s.addFiles files fs).2.2 := by
  induction fs generalizing s with
  | nil => exact unescalated_ok ()
  | cons f rest ih =>
    have mild := unescalated_addFile files s f
    unfold addFiles
    cases added : s.addFile files f with
    | error e => exact fun m ended => mild m (by rw [added]; cases ended; rfl)
    | ok result => exact ih result.1

theorem TutorialShelf.unescalated_addDirectory (files : FileTree) (s : TutorialShelf) (dir : Path)
    (recurse : Bool) : Unescalated (s.addDirectory files dir recurse).2.2 := by
  unfold addDirectory
  split
  · exact nofun
  · rename_i place _
    let found := (files.filesBelow (fun _ => false) (depth recurse) place dir).filterMap
      TutorialFile.ofPath?
    have mild := unescalated_addFiles files s
      ((found.partition (·.2.1 = .settings)).2 ++ (found.partition (·.2.1 = .settings)).1)
    dsimp only
    split
    · exact unescalated_ok ()
    · exact mild

theorem TutorialShelf.gives_load (s : TutorialShelf) (dir : Path) (recurse : Bool) :
    (s.load dir recurse : Act σ _).Gives fun loaded => Unescalated loaded.2 :=
  fun desk => s.unescalated_addDirectory desk.files dir recurse

theorem Template.mem_catalog {files : FileTree} {catalog : Catalog σ} {location : Location}
    {found : String × Factory σ (Template σ)}
    (is : implementation files catalog location = .ok found) :
    catalog.templates.get? found.1 = some found.2 := by
  unfold implementation at is
  cases named : entry files location with
  | error e => rw [named] at is; cases is
  | ok name =>
    rw [named] at is
    cases known : catalog.templates.get? name with
    | none => simp [bind, Except.bind, known] at is
    | some t =>
      simp [bind, Except.bind, known] at is
      rw [← is]
      exact known

/-- Making the templates of the catalog logs nothing. -/
def Catalog.SilentTemplates (c : Catalog σ) : Prop :=
  ∀ name factory, c.templates.get? name = some factory →
    ∀ desk, (factory.make.run desk).2.2 = []

theorem Template.load_harmless {catalog : Catalog σ} (silent : catalog.SilentTemplates)
    (location : Location) (desk : Desk σ) :
    ∀ e ∈ ((load catalog location).run.run desk).2.2, e.Harmless := by
  simp only [load, Attempt.bind_run, Attempt.files_run, Attempt.ofExcept_run, Attempt.act_run]
  cases found : implementation desk.files catalog location with
  | error e => simp
  | ok found =>
    simp [silent _ _ (mem_catalog ‹_›), Event.Harmless, Event.debug]

theorem Template.neverFatal_load (catalog : Catalog σ) (location : Location) :
    (load catalog location).NeverFatal := by
  intro desk
  obtain ⟨notes, log, ran⟩ := load_run catalog location desk
  rw [ran]
  exact (unescalated_implementation _ _ _).map _

/-! ### Parsing -/

open Run

section Parsing

variable {strict : Prop}

theorem Parser.guards_parseFrom (p : Parser σ) (encoding : Encoding) (total i : Nat)
    (doclets : Collection) (files : List Path) :
    Guards strict anyGate (p.parseFrom Run.watch encoding total i doclets files) anyGate := by
  induction files generalizing i doclets with
  | nil => exact guards_pure _
  | cons file rest ih =>
    have opened : Guards strict Gate.Open (Run.watch.opened file : Run σ Unit) Gate.Open :=
      guards_record (fun _ => rfl) id
    refine guards_stop (Guards.then (guards_act _) fun _ => guards_pure _) ?_
    refine opened.then fun _ => Guards.then (guards_act _) fun parsed => ?_
    cases parsed with
    | none => exact ih _ _
    | some doclets => exact Guards.then (guards_tell _) fun _ => ih _ _

theorem ParseJob.guards_parse (j : ParseJob σ) (parser : Parser σ) (files : List Path) :
    Guards strict anyGate (j.parse Run.watch parser files) anyGate := by
  refine Guards.then (guards_act _) fun encoding =>
    Guards.then (Q := anyGate) ?_ fun _ => guards_pure _
  refine Guards.then (guards_act _) fun files =>
    Guards.then (parser.guards_parseFrom _ _ _ _ _) ?_
  rintro ⟨doclets, ended⟩
  cases ended with
  | true => exact Guards.then (guards_act _) fun _ => guards_pure _
  | false => exact guards_pure _

end Parsing

/-! ### The pipeline -/

namespace Pipeline

variable (p : Pipeline σ) (s : Setup)

theorem guards_parse (inputs : Inputs) :
    Guards p.catalog.SilentTemplates Gate.Open (p.parse s inputs) Gate.Open := by
  have made (j : ParseJob σ) :
      Guards p.catalog.SilentTemplates Gate.Open (Run.attempt j.parser) anyGate :=
    guards_attempt fun desk m fatal => (j.neverFatal_parser desk m fatal).elim
  refine (guards_enter _).then fun _ => (guards_note (.inl rfl)).then fun _ =>
    (guards_tell _).then fun _ => (made _).then fun parser => guards_checkFatal.then fun _ =>
      ((ParseJob.guards_parse _ parser _).weaken (fun _ _ => trivial) fun _ => id).then ?_
  exact fun _ => (guards_log _).then fun _ => guards_checkFatal.then fun _ => guards_pure _

theorem guards_postProcess (parser : Parser σ) (doclets : Collection) :
    Guards p.catalog.SilentTemplates Gate.Open (p.postProcess parser doclets) Gate.Open :=
  (guards_enter _).then fun _ => (guards_note (.inl rfl)).then fun _ =>
    (guards_tell _).then fun _ => (guards_act _).then fun _ => guards_checkFatal.then fun _ =>
      guards_pure _

theorem guards_dump {strict : Prop} (doclets : Collection) :
    Guards strict Gate.Open (dump doclets : Run σ Unit) Gate.Open :=
  (guards_transition _).then fun _ => guards_print _

theorem guards_tutorials (options : Options) :
    Guards p.catalog.SilentTemplates Gate.Open (p.tutorials options) anyGate := by
  unfold tutorials
  cases options.tutorials with
  | none => exact (guards_pure _).toAny
  | some dir =>
    have sought : Guards p.catalog.SilentTemplates Gate.Open
        (Run.record (.sought (p.roots.workingDir / dir)) : Run σ Unit) Gate.Open :=
      guards_record (fun _ => rfl) id
    refine (guards_tell _).then fun _ => sought.then fun _ => (guards_act _).bind ?_
    rintro ⟨shelf, result⟩ ⟨start, given⟩
    have mild : Unescalated result := by
      have loaded :=
        TutorialShelf.gives_load {} (p.roots.workingDir / dir) options.recurse start.desk
      rwa [show ((TutorialShelf.load {} _ options.recurse).run start.desk).1 = (shelf, result) from
        Except.ok.inj given] at loaded
    have settled : Guards p.catalog.SilentTemplates anyGate
        (Run.attempt (Attempt.ofExcept result) : Run σ Unit) anyGate :=
      guards_attempt fun _ m fatal => (mild m fatal).elim
    exact settled.then fun _ => (guards_act _).then fun _ => guards_pure _

theorem guards_renderWith (inputs : Inputs) (doclets : Collection) (tutorials : TutorialTree) :
    Guards p.catalog.SilentTemplates anyGate (p.renderWith s inputs doclets tutorials) anyGate :=
  guards_checkFatal.then fun _ => guards_files.then fun _ =>
    (guards_attempt_note (fun silent => Template.load_harmless silent _)
      (Template.neverFatal_load _ _)).then fun template =>
    (guards_tell _).then fun _ => (guards_note (.inr rfl)).then fun _ =>
      (guards_publish template _ _ _).then fun _ => guards_log _

theorem guards_render (inputs : Inputs) (doclets : Collection) :
    Guards p.catalog.SilentTemplates Gate.Open (p.render s inputs doclets) anyGate :=
  (guards_transition _).then fun _ => (p.guards_tutorials _).then fun _ =>
    p.guards_renderWith s _ _ _

theorem guards_conclude {strict : Prop} (doclets : Collection) :
    Guards strict anyGate (conclude doclets : Run σ CommandResult) Gate.Open :=
  guards_checkFatal.then fun _ => (guards_report Reporter.finish fun _ => rfl).then fun _ =>
    (guards_tell _).then fun _ => guards_pure _

theorem guards_documentInputs (inputs : Inputs) :
    Guards p.catalog.SilentTemplates Gate.Open (p.documentInputs s inputs) Gate.Open := by
  refine (p.guards_parse s inputs).then ?_
  rintro ⟨parser, doclets⟩
  refine (p.guards_postProcess parser doclets).then fun doclets => ?_
  cases s.options.explain with
  | true => exact (guards_dump doclets).toAny.then fun _ => guards_conclude doclets
  | false => exact (p.guards_render s inputs doclets).then fun _ => guards_conclude doclets

theorem guards_printHelp {strict : Prop} :
    Guards strict Gate.Open (printHelp : Run σ CommandResult) Gate.Open :=
  (guards_print _).then fun _ => (guards_transition _).then fun _ => guards_pure _

theorem guards_documentNothing {strict : Prop} :
    Guards strict Gate.Open (documentNothing : Run σ CommandResult) Gate.Open :=
  (guards_print _).then fun _ => guards_printHelp.then fun _ =>
    (guards_report Reporter.finish fun _ => rfl).then fun _ => guards_pure _

theorem guards_document : Guards p.catalog.SilentTemplates Gate.Open (p.document s) Gate.Open := by
  have loaded : Guards p.catalog.SilentTemplates Gate.Open
      (Run.attempt (Inputs.load (p.inputRequest s)) : Run σ Inputs) anyGate :=
    guards_attempt fun desk m fatal => (Inputs.neverFatal_load _ desk m fatal).elim
  refine (guards_report Reporter.start fun _ => rfl).then fun _ => (guards_tell _).then fun _ =>
    loaded.then fun inputs => guards_checkFatal.then fun _ => ?_
  cases inputs.files.isEmpty with
  | true => exact guards_documentNothing
  | false => exact p.guards_documentInputs s inputs

theorem guards_carryOut (tested : s.options.test = false) :
    Guards p.catalog.SilentTemplates anyGate (p.carryOut s) Gate.Open := by
  unfold carryOut
  rw [tested]
  refine guards_checkFatal.then fun _ => ?_
  cases s.options.help with
  | true => exact guards_printHelp
  | false =>
    cases s.options.version with
    | true => exact (guards_print _).then fun _ => guards_pure _
    | false => exact p.guards_document s

/-- A gate that is raised from the start ends the run before it does anything. -/
theorem carryOut_raised {start : RunState σ} {m : String}
    (raised : start.reporter.gate.fatal = some m) :
    (p.carryOut s).run start = (.error (.fatal m), start) := by
  simp [carryOut, run_bind, Gate.check_eq, raised]

/-- What the gate is to a run from its arming on. -/
structure Armed (armed : Gate) (outcome : Outcome) (rest : List Happening) : Prop where
  governed : armed.Governs p.catalog.SilentTemplates rest
  ended_open : outcome.error = none → (armed.followAll rest).Open
  fatal : ∀ m, outcome.error = some (.fatal m) →
    (armed.followAll rest).fatal = some m ∨ .abandoned (.fatal m) ∈ rest
  /-- Nothing is at fault any more if the gate was raised before. -/
  raised : ∀ m, armed.fatal = some m → rest.findSome? Happening.fault? = none

theorem run_armed (start : RunState σ) (configured : p.setup? start.desk.files = .ok s)
    (tested : s.options.test = false) :
    ∃ before rest,
      (p.run start).2.history =
          start.history ++ before ++ .armed s.options.pedantic :: rest ∧
        (∀ x ∈ before, ¬ x.IsArming) ∧
        p.Armed (start.reporter.gate.arm s.options.pedantic) (p.run start).1 rest := by
  obtain ⟨s₁, before, last, ran, -, calm, asides, history, gate⟩ :=
    p.configure_armed start configured tested
  obtain ⟨h, history', -, guarded⟩ := p.guards_carryOut s tested s₁
  obtain ⟨governed, post, fatal⟩ := guarded trivial
  obtain ⟨-, stage, left, history'', ends⟩ := p.run_ends start
  rw [command_run ran] at history'' ends
  let armed := start.reporter.gate.arm s.options.pedantic
  rw [show s₁.reporter.gate = armed from gate] at governed post fatal
  let rest := last ++ h ++ [.logged (leftEvent left stage), .entered stage]
  have leaving : (leftEvent left stage).Harmless := .inl rfl
  have gated : armed.followAll rest = armed.followAll h := by
    rw [Gate.followAll_append, Gate.followAll_append, Gate.followAll_asides _ asides]
    exact Gate.observe_harmless _ leaving
  have faultless (m : String) (raised : armed.fatal = some m) :
      rest.findSome? Happening.fault? = none := by
    have stopped := p.carryOut_raised s (show s₁.reporter.gate.fatal = some m from gate ▸ raised)
    have nothing : h = [] := by
      rw [stopped] at history'
      simpa using history'
    refine Happening.findSome?_fault_calm (List.forall_mem_append.mpr ⟨?_, ?_⟩)
    · simpa [nothing] using fun x member => (asides x member).calm
    · simpa using ⟨leaving, trivial⟩
  refine ⟨before, rest, ?_, fun x member => (calm x member).plain, ?_⟩
  · simp [rest, history'', history', history]
  cases ended : ((p.carryOut s).run s₁).1 with
  | ok c =>
    rw [ended] at ends post
    obtain ⟨rfl, error, -⟩ := ends
    exact ⟨governed.around asides leaving (.inr (post c rfl)), fun _ => gated ▸ post c rfl,
      by simp [error], faultless⟩
  | error e =>
    rw [ended] at ends fatal
    obtain ⟨rfl, error, -, -⟩ := ends
    refine ⟨governed.around asides leaving (.inl rfl), by simp [error], fun m escalated => ?_,
      faultless⟩
    rw [gated]
    have within : ∀ x ∈ h, x ∈ rest := fun x member => by simp [rest, member]
    exact (fatal m (by rw [error] at escalated; cases escalated; rfl)).imp_right (within _)

/-- What an error does to a run: `rest` is the history from the arming of the gate on, `after` what
happened after the error. -/
structure Stopped (outcome : Outcome) (rest after : List Happening) : Prop where
  idle : ∀ x ∈ after, ¬ x.IsWork
  failed : outcome.error.isSome
  doclets : outcome.doclets = none
  exitCode : outcome.exitCode = 1
  message : ∀ m, outcome.error = some (.fatal m) →
    rest.findSome? Happening.fault? = some m ∨ .abandoned (.fatal m) ∈ rest

/-- **A pedantic run stops at the first error.** No work is begun after an error that is logged, and
the run fails. If it ends fatally, the message is that of the first error, unless the template itself
ended so. -/
theorem run_stopped (start : RunState σ) (configured : p.setup? start.desk.files = .ok s)
    (pedantic : s.options.pedantic = true) (tested : s.options.test = false)
    (silent : p.catalog.SilentTemplates) :
    let (outcome, finish) := p.run start
    ∃ before rest, finish.history = start.history ++ before ++ .armed true :: rest ∧
      (∀ x ∈ before, ¬ x.IsArming) ∧
      ∀ between e after, rest = between ++ .logged e :: after → e.level = .error →
        Stopped outcome rest after := by
  obtain ⟨before, rest, history, plain, kept⟩ := p.run_armed s start configured tested
  rw [pedantic] at history kept
  refine ⟨before, rest, history, plain, fun between e after cut level => ?_⟩
  obtain ⟨idle, raised⟩ := Gate.Governs.stopped rfl silent (cut ▸ kept.governed) level
  rw [← cut] at raised
  have failed : (p.run start).1.error.isSome :=
    Option.isSome_iff_ne_none.mpr fun none => raised (kept.ended_open none)
  have ⟨doclets, exitCode⟩ : (p.run start).1.doclets = none ∧ (p.run start).1.exitCode = 1 := by
    cases ended : (p.command.run start).1 with
    | ok c => simp [(run_of_ok ended).1] at failed
    | error e => exact (run_of_error ended).2
  refine ⟨idle, failed, doclets, exitCode, fun m escalated => ?_⟩
  refine (kept.fatal m escalated).imp_left fun first => ?_
  rw [Gate.fatal_pedantic rfl kept.governed.plain] at first
  cases before : (start.reporter.gate.arm true).fatal with
  | none => rwa [before, Option.none_or] at first
  | some m₀ =>
    have faultless := kept.raised m₀ before
    rw [cut, List.findSome?_append] at faultless
    simp [Happening.fault?, level] at faultless

/-! ### A run stopped by its package file -/

/-- The package file that is named is not there. -/
def unpackaged : Pipeline Unit := plain ["--pedantic", "--package", "b"]

def unpackagedSetup : Setup :=
  { options := ({ pedantic := true, package := some ⟨"b"⟩ } : Options).merge none
    config := .standard
    place := .standard }

def unreadableEvent : Event :=
  .error "unable to read the package file" [("path", "b"), ("error", FileFault.notFound.message)]

theorem unpackaged_inputs :
    (Inputs.load (unpackaged.inputRequest unpackagedSetup)).run.run lone =
      (.ok {}, lone,
        [unreadableEvent, .debug "source list built" [("candidates", toString 0)]]) := by
  have absent : lone.files.node ⟨"b"⟩ = .error .notFound :=
    FileTree.IsName.node_none ⟨rfl, rfl, rfl, by decide, rfl⟩ (rfl : _ = none)
  have unread : lone.files.readPackage ⟨"b"⟩ = .error unreadableEvent := by
    simp only [FileTree.readPackage, FileTree.readText, FileTree.readBytes, absent]
    rfl
  have claims : InputRequest.firstClaims (unpackaged.inputRequest unpackagedSetup).claims =
      [(.package, ⟨"b"⟩)] := rfl
  have path : (unpackaged.inputRequest unpackagedSetup).workingDir / (⟨"b"⟩ : Path) = ⟨"b"⟩ := rfl
  have collected : Inputs.collect lone.files (unpackaged.inputRequest unpackagedSetup) =
      ({}, [unreadableEvent, .debug "source list built" [("candidates", toString 0)]]) := by
    simp only [Inputs.collect, claims, List.foldl, Inputs.take, path, unread]
    rfl
  simp only [Inputs.load, Attempt.bind_run, Attempt.files_run, Attempt.act_run, collected]
  rfl

theorem run_stopped_unpackaged :
    let start : RunState Unit := { desk := lone }
    let (outcome, finish) := unpackaged.run start
    outcome.error = some (.fatal "unable to read the package file") ∧
      ∃ before rest, finish.history = start.history ++ before ++ .armed true :: rest ∧
        (∀ x ∈ before, ¬ x.IsArming) ∧
        ∀ between e after, rest = between ++ .logged e :: after → e.level = .error →
          Stopped outcome rest after := by
  intro start
  have configured : unpackaged.setup? start.desk.files = .ok unpackagedSetup :=
    setup?_plain _ { pedantic := true, package := some ⟨"b"⟩ } rfl rfl
  have silent : unpackaged.catalog.SilentTemplates := nofun
  refine ⟨?_, unpackaged.run_stopped unpackagedSetup start configured rfl rfl silent⟩
  obtain ⟨s, _, _, ran, ⟨desk, -⟩, -, -, -, armed⟩ :=
    unpackaged.configure_armed start configured rfl
  have gate : s.reporter.gate = { policy := .pedantic } := armed
  have carried : ((unpackaged.carryOut unpackagedSetup).run s).1 =
      .error (.fatal "unable to read the package file") := by
    rw [carryOut, run_bind, checkFatal_run, gate]
    show ((unpackaged.document unpackagedSetup).run s).1 = _
    have loaded (s' : RunState Unit) (same : s'.desk = lone) :
        s'.perform (Inputs.load (unpackaged.inputRequest unpackagedSetup)).run =
          (.ok {}, s'.observe
            [unreadableEvent, .debug "source list built" [("candidates", toString 0)]]) := by
      rw [RunState.perform, same, unpackaged_inputs, ← same]
    simp only [document, run_bind, report_run, phase, Run.tell, record_run, attempt_run]
    rw [loaded]
    · simp [RunState.observe, Reporter.observeAll, Gate.observeAll, Gate.observe, RunState.record,
        Reporter.start, gate, Gate.check, unreadableEvent, Event.error, Event.debug]
    · exact desk
  rw [← command_run ran] at carried
  exact (run_of_error carried).1

/-! ### A template that makes up a fatal error -/

/-- It logs one error and ends with another. -/
def forger : Template Unit where
  publish _ _ _ := do
    Attempt.log (.error "logged")
    throw (.fatal "made up")

def forged : Pipeline Unit :=
  { plain ["--pedantic", "-t", "x", "a.js"] with
    catalog := { templates := .ofList [("x", .of forger)] }
    post := ⟨pure, pure, pure⟩ }

def forgedSetup : Setup :=
  { options := ({ pedantic := true, template := some "x", files := [⟨"a.js"⟩] } : Options).merge
      none
    config := .standard
    place := .standard }

theorem forged_template :
    Template.find lone.files forged.locator forged.catalog "x" = .builtin "x" := by
  have absent : lone.files.isDirectory ⟨"x"⟩ = false := by
    have node : lone.files.node ⟨"x"⟩ = .error .notFound :=
      FileTree.IsName.node_none ⟨rfl, rfl, rfl, by decide, rfl⟩ (rfl : _ = none)
    simp only [FileTree.isDirectory, node]
  have candidates : forged.locator.candidates ⟨"x"⟩ = [⟨"x"⟩, ⟨"x"⟩] := rfl
  have nowhere : forged.locator.findDirectory? lone.files "x" = none := by
    rw [Locator.findDirectory?, candidates]
    simp [absent]
  rw [Template.find, nowhere]
  rfl

theorem forged_leads : ∃ doclets options tutorials,
    Leads lone (forged.carryOut forgedSetup)
      (publish forger doclets options tutorials >>= fun _ =>
        log (.info "complete.") >>= fun _ => conclude doclets) := by
  obtain ⟨loads, harmless, loaded⟩ := script_inputs lone_node
  have found : Leads lone (attempt (Inputs.load (forged.inputRequest forgedSetup))) (pure _) :=
    leads_attempt loaded harmless
  obtain ⟨parser, doclets, silent, parsed⟩ :=
    forged.leads_parse forgedSetup scriptInputs rfl rfl rfl lone_source
  have processed : Leads lone (forged.postProcess parser doclets) (pure doclets) := by
    have ran : (ParseJob.postProcess forged.post parser doclets).run lone = (doclets, lone,
        [.debug "Indexing doclets...",
          .debug "Adding inherited symbols, mixins, and interface implementations...",
          .debug "Adding borrowed doclets...", .debug "Post-processing complete."]) := by
      simp only [ParseJob.postProcess, Parser.fireProcessingComplete, silent]
      rfl
    have harmless : ∀ e ∈ [Event.debug "Indexing doclets...",
        .debug "Adding inherited symbols, mixins, and interface implementations...",
        .debug "Adding borrowed doclets...", .debug "Post-processing complete."], e.Harmless := by
      simp [Event.Harmless, Event.debug]
    exact (leads_enter _).then ((leads_log (.inl rfl)).then ((leads_tell _).then
      ((leads_act ran harmless).then (leads_checkFatal.then (Leads.refl _ _)))))
  have looked : Leads lone (Run.files : Run Unit FileTree) (pure lone.files) :=
    leads_act rfl (List.forall_mem_nil _)
  have loaded : Leads lone (attempt (Template.load forged.catalog
      (Template.find lone.files forged.locator forged.catalog forgedSetup.options.templateName)))
      (pure forger) := by
    have named : forgedSetup.options.templateName = "x" := rfl
    rw [named, forged_template]
    exact leads_attempt rfl (List.forall_mem_singleton.mpr (.inl rfl))
  let options : Options :=
    { forgedSetup.options with
      destination := forgedSetup.options.destination.map forged.roots.workingDir.join
      readmeHtml := none }
  have rendered : Leads lone (forged.render forgedSetup scriptInputs doclets)
      (publish forger doclets options (.root []) >>= fun _ => log (.info "complete.")) :=
    (leads_transition _).then <| (Leads.refl _ _).then <| leads_checkFatal.then <| looked.then <|
      loaded.then <| (leads_tell _).then <| (leads_log (.inr rfl)).then <| Leads.refl _ _
  have concluded := rendered.bind fun _ => conclude doclets
  rw [bind_assoc] at concluded
  exact ⟨doclets, options, .root [], leads_checkFatal.then <|
    (leads_report Reporter.start fun _ => rfl).then <| (leads_tell _).then <| found.then <|
      leads_checkFatal.then <| parsed.then <| processed.then concluded⟩

/-- **A template may end a run with a message of its own.** In this pedantic run the first error that
is logged is not the one the run ends with. -/
theorem run_forged :
    let start : RunState Unit := { desk := lone }
    let outcome := (forged.run start).1
    let finish := (forged.run start).2
    forged.setup? lone.files = .ok forgedSetup ∧
      forgedSetup.options.pedantic = true ∧ forgedSetup.options.test = false ∧
      forgedSetup.options.help = false ∧ forgedSetup.options.version = false ∧
      forged.catalog.SilentTemplates ∧
      outcome.error = some (.fatal "made up") ∧
      ∃ before rest, finish.history = start.history ++ before ++ .armed true :: rest ∧
        (∀ x ∈ before, ¬ x.IsArming) ∧ rest.findSome? Happening.fault? = some "logged" := by
  intro start outcome finish
  have configured : forged.setup? start.desk.files = .ok forgedSetup :=
    setup?_plain _ { pedantic := true, template := some "x", files := [⟨"a.js"⟩] } rfl rfl
  have silent : forged.catalog.SilentTemplates := by
    intro name factory known desk
    obtain ⟨-, rfl⟩ := Prod.mk.inj (List.mem_singleton.mp (Table.mem_of_get?_ofList known))
    rfl
  obtain ⟨s, before, last, ran, ⟨desk, -⟩, calm, asides, history, gate⟩ :=
    forged.configure_armed start configured rfl
  obtain ⟨doclets, options, tutorials, leads⟩ := forged_leads
  obtain ⟨s', ⟨-, -, h, more, quiet⟩, carried⟩ := leads s desk (by rw [gate]; rfl)
  obtain ⟨-, stage, left, final, ends⟩ := forged.run_ends start
  have commanded : forged.command.run start = (.error (.fatal "made up"),
      ((s'.record .published).observe [.error "logged"]).record
        (.abandoned (.fatal "made up"))) := by
    rw [command_run ran, carried]
    rfl
  rw [commanded] at final ends
  let rest := last ++ h ++ [.published, .logged (.error "logged"), .abandoned (.fatal "made up"),
    .logged (leftEvent left stage), .entered stage]
  have told : (forged.run start).2.history = start.history ++ before ++ .armed true :: rest := by
    rw [final]
    show s'.history ++ [.published] ++ [.logged (.error "logged")] ++ _ ++ _ = _
    rw [more, history]
    simp [rest]
    rfl
  refine ⟨configured, rfl, rfl, rfl, rfl, silent, ends.2.1, before, rest, told,
    fun x member => (calm x member).plain, ?_⟩
  rw [List.findSome?_append, List.findSome?_append, Happening.findSome?_fault_calm quiet,
    Happening.findSome?_fault_calm fun x member => (asides x member).calm]
  rfl

end Pipeline

end RefDoc
