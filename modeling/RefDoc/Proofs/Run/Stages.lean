import RefDoc.Proofs.Run.Frame

/-!
# The course of a run

The milestones of a run are the stages it enters, the search for tutorials and the call of a
template. `Pipeline.Course` lists all that a run can pass between configuring and its end. Every
part of the pipeline has one lemma on the milestones it passes; what the stages say about the
outcome (`Pipeline.run_stages`) follows from the list.
-/

namespace RefDoc

variable {σ α β : Type}

/-- Whether it is a stage, or work that belongs to one stage only. -/
def Happening.isMilestone : Happening → Bool
  | .entered _ | .sought _ | .published => true
  | _ => false

namespace Run

/-! ### Milestones of parts -/

/-- Run from `s`, the part passes such milestones, and ends in such a way. -/
def PassesFrom (r : Run σ α) (s : RunState σ) (Q : List Happening → Except Error α → Prop) : Prop :=
  r.AddsFrom s fun _ h result => Q (h.filter (·.isMilestone)) result

def Passes (r : Run σ α) (Q : List Happening → Except Error α → Prop) : Prop :=
  ∀ s, r.PassesFrom s Q

/-- However it ends, the part passes these milestones. -/
def Marks (r : Run σ α) (known : List Happening) : Prop := r.Passes fun ms _ => ms = known

section Rules

variable {r : Run σ α} {f : α → Run σ β} {s : RunState σ} {known : List Happening}
  {P P' : List Happening → Except Error α → Prop} {Q : List Happening → Except Error β → Prop}
  {K : α → List Happening → Except Error β → Prop}

theorem Passes.mono (h : r.Passes P) (weaken : ∀ ms result, P ms result → P' ms result) :
    r.Passes P' := fun s => (h s).mono fun _ _ _ => weaken _ _

theorem PassesFrom.bind (first : r.PassesFrom s P)
    (next : ∀ v s', r.run s = (.ok v, s') → (f v).PassesFrom s' (K v)) :
    (r >>= f).PassesFrom s fun ms result =>
      (∃ e, result = .error e ∧ P ms (.error e)) ∨
        ∃ v before after, ms = before ++ after ∧ P before (.ok v) ∧ K v after result := by
  refine (AddsFrom.bind first next).mono ?_
  rintro g h result (⟨e, rfl, holds⟩ | ⟨v, before, after, rfl, holds, holds'⟩)
  · exact .inl ⟨e, rfl, holds⟩
  · exact .inr ⟨v, _, _, List.filter_append .., holds, holds'⟩

/-- Milestones that are known come first. -/
theorem PassesFrom.after (first : r.PassesFrom s fun ms _ => ms = known)
    (failed : ∀ e, Q known (.error e))
    (next : ∀ v s', r.run s = (.ok v, s') →
      (f v).PassesFrom s' fun ms result => Q (known ++ ms) result) :
    (r >>= f).PassesFrom s Q := by
  refine (PassesFrom.bind first next).mono ?_
  rintro g h result (⟨e, rfl, all⟩ | ⟨v, before, after, all, rfl, holds⟩)
  · exact all ▸ failed e
  · exact all ▸ holds

theorem Marks.then (first : r.Marks known) (failed : ∀ e, Q known (.error e))
    (next : ∀ v, (f v).Passes fun ms result => Q (known ++ ms) result) : (r >>= f).Passes Q :=
  fun s => (first s).after failed fun v s' _ => next v s'

theorem Marks.bind (first : r.Marks known) (next : ∀ v, (f v).Marks []) : (r >>= f).Marks known :=
  first.then (fun _ => rfl) fun v => (next v).mono fun _ _ none => by rw [none, List.append_nil]

theorem passes_of_adds {Q : Account α} (h : r.Adds Q)
    (weaken : ∀ g h result, Q g h result → P (h.filter (·.isMilestone)) result) : r.Passes P :=
  fun s => (h s).mono weaken

theorem marks_of_adds {Q : Account α} (h : r.Adds Q)
    (known_of : ∀ g h result, Q g h result → h.filter (·.isMilestone) = known) : r.Marks known :=
  fun s => (h s).mono known_of

end Rules

theorem filter_logged (es : List Event) :
    (es.map Happening.logged).filter (·.isMilestone) = [] := by
  simp [Happening.isMilestone]

theorem filter_asides {h : List Happening} (asides : ∀ x ∈ h, x.IsAside) :
    h.filter (·.isMilestone) = [] :=
  List.filter_eq_nil_iff.mpr fun x member => by
    have aside := asides x member
    cases x <;> first | exact aside.elim | exact Bool.false_ne_true

theorem quiet_pure (v : α) : (pure v : Run σ α).Marks [] :=
  marks_of_adds (adds_pure v) fun _ _ _ q => by rw [q.1]; rfl

theorem quiet_log (e : Event) : (log e : Run σ Unit).Marks [] :=
  marks_of_adds (adds_log e) fun _ _ _ q => by rw [q.1]; rfl

theorem quiet_act (a : Act σ α) : (act a).Marks [] :=
  marks_of_adds (adds_act a) fun _ _ _ ⟨_, h, _⟩ => by rw [h, filter_logged]

theorem quiet_attempt (a : Attempt σ α) : (attempt a).Marks [] :=
  marks_of_adds (adds_attempt a) fun _ _ _ ⟨_, h, _⟩ => by rw [h, filter_logged]

theorem quiet_tell (p : Progress) : (tell p : Run σ Unit).Marks [] :=
  marks_of_adds (adds_tell p) fun _ _ _ q => by rw [q.1]; rfl

theorem quiet_report (change : Reporter → Reporter) (keeps : ∀ r, (change r).gate = r.gate) :
    (report change : Run σ Unit).Marks [] :=
  marks_of_adds (adds_report change keeps) fun _ _ _ q => by rw [q.1]; rfl

theorem quiet_get : (get : Run σ (RunState σ)).Marks [] :=
  marks_of_adds adds_get fun _ _ _ q => by rw [q.1]; rfl

theorem quiet_print (text : String) : (print text : Run σ Unit).Marks [] :=
  marks_of_adds (adds_print text) fun _ _ _ q => by rw [q.1]; rfl

theorem quiet_checkFatal : (checkFatal : Run σ Unit).Marks [] :=
  marks_of_adds adds_checkFatal fun _ _ _ q => by rw [q.1]; rfl

theorem marks_record {x : Happening} (milestone : x.isMilestone = true)
    (unseen : ∀ g : Gate, g.follow x = g) : (record x : Run σ Unit).Marks [x] :=
  marks_of_adds (adds_record unseen) fun _ _ _ q => by simp [q.1, milestone]

theorem marks_enter (stage : Stage) : (enter stage : Run σ Unit).Marks [.entered stage] :=
  marks_record rfl fun _ => rfl

theorem marks_publish (t : Template σ) (doclets : Collection) (options : Options)
    (tutorials : TutorialTree) : (publish t doclets options tutorials).Marks [.published] :=
  marks_of_adds (adds_publish t doclets options tutorials) fun _ _ _ ⟨desk, _, h⟩ => by
    rw [h, List.filter_append, List.filter_cons_of_pos rfl, filter_logged]
    cases ((t.publish doclets options tutorials).run.run desk).1 <;> rfl

theorem marks_transition (stage : Stage) :
    (transition stage : Run σ Unit).Marks [.entered stage] :=
  marks_of_adds (adds_transition stage) fun _ _ _ ⟨_, h, _⟩ => by rw [h]; rfl

end Run

/-! ### The parser -/

open Run

theorem Parser.quiet_parseFrom (p : Parser σ) (encoding : Encoding) (total i : Nat)
    (doclets : Collection) (files : List Path) :
    (p.parseFrom Run.watch encoding total i doclets files).Marks [] := by
  induction files generalizing i doclets with
  | nil => exact quiet_pure _
  | cons file rest ih =>
    have opened : (Run.watch.opened file : Run σ Unit).Marks [] :=
      marks_of_adds (adds_record fun _ => rfl) fun _ _ _ q => by rw [q.1]; rfl
    refine Marks.bind (quiet_get.bind fun _ => quiet_pure _) fun stop => ?_
    cases stop with
    | true => exact Marks.bind (quiet_act _) fun _ => quiet_pure _
    | false =>
      refine opened.bind fun _ => Marks.bind (quiet_act _) fun parsed => ?_
      cases parsed with
      | none => exact ih _ _
      | some doclets => exact Marks.bind (quiet_tell _) fun _ => ih _ _

theorem Parser.quiet_parseWatched (p : Parser σ) (files : List Path) (encoding : Encoding) :
    (p.parseWatched Run.watch files encoding).Marks [] := by
  refine Marks.bind (quiet_act _) fun files => Marks.bind (p.quiet_parseFrom _ _ _ _ _) ?_
  rintro ⟨doclets, ended⟩
  cases ended with
  | true => exact Marks.bind (quiet_act _) fun _ => quiet_pure _
  | false => exact quiet_pure _

theorem ParseJob.quiet_parse (j : ParseJob σ) (parser : Parser σ) (files : List Path) :
    (j.parse Run.watch parser files).Marks [] :=
  Marks.bind (quiet_act _) fun _ => Marks.bind (parser.quiet_parseWatched _ _) fun _ => quiet_pure _

/-! ### The parts of the pipeline -/

namespace Pipeline

theorem marks_parse (p : Pipeline σ) (s : Setup) (inputs : Inputs) :
    (p.parse s inputs).Marks [.entered .parsing] :=
  (marks_enter _).bind fun _ => (quiet_log _).bind fun _ => (quiet_tell _).bind fun _ =>
    (quiet_attempt _).bind fun _ => quiet_checkFatal.bind fun _ =>
      (ParseJob.quiet_parse _ _ _).bind fun _ => (quiet_log _).bind fun _ =>
        quiet_checkFatal.bind fun _ => quiet_pure _

theorem marks_postProcess (p : Pipeline σ) (parser : Parser σ) (doclets : Collection) :
    (p.postProcess parser doclets).Marks [.entered .postprocessing] :=
  (marks_enter _).bind fun _ => (quiet_log _).bind fun _ => (quiet_tell _).bind fun _ =>
    (quiet_act _).bind fun _ => quiet_checkFatal.bind fun _ => quiet_pure _

theorem marks_dump (doclets : Collection) :
    (dump doclets : Run σ Unit).Marks [.entered .dumped] :=
  (marks_transition _).bind fun _ => quiet_print _

/-- The stage is entered only once the help is printed. -/
theorem passes_printHelp :
    (printHelp : Run σ CommandResult).Passes fun ms result =>
      (ms = [] ∧ ∃ e, result = .error e) ∨ (ms = [.entered .helpPrinted] ∧ result = .ok {}) := by
  refine passes_of_adds
    ((adds_print _).bind fun _ => (adds_transition _).bind fun _ => adds_pure _) ?_
  rintro g h result (⟨e, rfl, rfl, -⟩ | ⟨_, _, _, rfl, ⟨rfl, -⟩, entered⟩)
  · exact .inl ⟨rfl, e, rfl⟩
  · obtain ⟨_, -, _, -, ⟨⟩⟩ | ⟨_, _, _, rfl, ⟨before, rfl, -⟩, rfl, rfl⟩ := entered
    exact .inr ⟨rfl, rfl⟩

/-- What may be done while rendering: tutorials are looked for, and a template is called at most
once. -/
def IsRenderingWork (work : List Happening) : Prop :=
  work.count .published ≤ 1 ∧ ∀ x ∈ work, x = .published ∨ ∃ dir, x = .sought dir

theorem isRenderingWork_append {before after : List Happening}
    (sought : before = [] ∨ ∃ dir, before = [.sought dir])
    (published : after = [] ∨ after = [.published]) : IsRenderingWork (before ++ after) := by
  rcases sought with rfl | ⟨dir, rfl⟩ <;> rcases published with rfl | rfl <;>
    simp [IsRenderingWork]

theorem passes_tutorials (p : Pipeline σ) (options : Options) :
    (p.tutorials options).Passes fun ms _ => ms = [] ∨ ∃ dir, ms = [.sought dir] := by
  unfold tutorials
  cases options.tutorials with
  | none => exact (quiet_pure _).mono fun _ _ => .inl
  | some dir =>
    have searching {f : Unit → Run σ TutorialTree} (rest : ∀ v, (f v).Marks []) :
        (record (.sought (p.roots.workingDir / dir)) >>= f).Marks
          [.sought (p.roots.workingDir / dir)] :=
      (marks_record rfl fun _ => rfl).bind rest
    refine (quiet_tell _).then (fun _ => .inl rfl) fun _ => (searching fun _ => ?_).mono ?_
    · exact (quiet_act _).bind fun _ => (quiet_attempt _).bind fun _ => (quiet_act _).bind fun _ =>
        quiet_pure _
    · exact fun ms _ all => .inr ⟨_, all⟩

/-- The template is the last to be called. -/
theorem passes_renderWith (p : Pipeline σ) (s : Setup) (inputs : Inputs) (doclets : Collection)
    (tutorials : TutorialTree) :
    (p.renderWith s inputs doclets tutorials).Passes fun ms _ => ms = [] ∨ ms = [.published] := by
  refine quiet_checkFatal.then (fun _ => .inl rfl) fun _ => (quiet_act _).then (fun _ => .inl rfl)
    fun _ => (quiet_attempt _).then (fun _ => .inl rfl) fun template =>
      (quiet_tell _).then (fun _ => .inl rfl) fun _ => (quiet_log _).then (fun _ => .inl rfl)
        fun _ => ?_
  exact ((marks_publish _ _ _ _).bind fun _ => quiet_log _).mono fun _ _ => .inr

theorem passes_render (p : Pipeline σ) (s : Setup) (inputs : Inputs) (doclets : Collection) :
    (p.render s inputs doclets).Passes fun ms _ =>
      ∃ work, IsRenderingWork work ∧ ms = .entered .rendering :: work := by
  refine (marks_transition _).then (fun e => ⟨[], ⟨by simp, by simp⟩, rfl⟩) fun _ => ?_
  refine Passes.mono (fun start => (p.passes_tutorials s.options start).bind
    fun tutorials => (fun s' _ => p.passes_renderWith s inputs doclets tutorials s')) ?_
  rintro ms result (⟨e, rfl, sought⟩ | ⟨tutorials, before, after, rfl, sought, published⟩)
  · exact ⟨ms, List.append_nil ms ▸ isRenderingWork_append sought (.inl rfl), rfl⟩
  · exact ⟨_, isRenderingWork_append sought published, rfl⟩

/-! ### The course -/

/-- What a run can pass once it is configured. The conditions say when it may print the help, dump
the doclets and render them. -/
inductive Course (helps dumps renders : Prop) : List Happening → Except Error CommandResult → Prop
  | stopped (e : Error) : Course helps dumps renders [] (.error e)
  | checked (exitCode : Nat) : Course helps dumps renders [] (.ok { exitCode })
  | helped : helps → Course helps dumps renders [.entered .helpPrinted] (.ok {})
  | parsing (e : Error) : Course helps dumps renders [.entered .parsing] (.error e)
  | postprocessing (e : Error) :
      Course helps dumps renders [.entered .parsing, .entered .postprocessing] (.error e)
  | dumped (result : Except Error CommandResult) : dumps →
      (∀ c, result = .ok c → c.doclets.isSome) →
      Course helps dumps renders
        [.entered .parsing, .entered .postprocessing, .entered .dumped] result
  | rendered (work : List Happening) (result : Except Error CommandResult) : renders →
      IsRenderingWork work → (∀ c, result = .ok c → c.doclets.isSome) →
      Course helps dumps renders
        ([.entered .parsing, .entered .postprocessing, .entered .rendering] ++ work) result

section

variable {helps dumps renders : Prop}

theorem passes_conclude (doclets : Collection) :
    (conclude doclets : Run σ CommandResult).Passes fun ms result =>
      ms = [] ∧ ∀ c, result = .ok c → c.doclets.isSome := by
  have failed : ∀ e : Error, ([] : List Happening) = [] ∧
    ∀ c : CommandResult, .error e = Except.ok c → c.doclets.isSome := fun _ => ⟨rfl, nofun⟩
  refine quiet_checkFatal.then failed fun _ =>
    (quiet_report Reporter.finish fun _ => rfl).then failed fun _ =>
      (quiet_tell _).then failed fun _ => passes_of_adds (adds_pure _) ?_
  rintro - h result ⟨rfl, rfl⟩
  exact ⟨rfl, fun c ended => by cases ended; rfl⟩

theorem course_documentInputs (p : Pipeline σ) (s : Setup) (inputs : Inputs)
    (dumping : s.options.explain = true → dumps) (rendering : s.options.explain = false → renders) :
    (p.documentInputs s inputs).Passes (Course helps dumps renders) := by
  refine (p.marks_parse s inputs).then .parsing ?_
  rintro ⟨parser, doclets⟩
  refine (p.marks_postProcess parser doclets).then .postprocessing fun doclets => ?_
  cases explain : s.options.explain with
  | true =>
    refine (marks_dump _).then (fun e => .dumped _ (dumping explain) nofun) fun _ => ?_
    refine (passes_conclude doclets).mono ?_
    rintro ms result ⟨rfl, given⟩
    exact .dumped _ (dumping explain) given
  | false =>
    refine Passes.mono (fun start => (p.passes_render s inputs doclets start).bind
      fun _ s' _ => passes_conclude doclets s') ?_
    rintro ms result (⟨e, rfl, work, lawful, rfl⟩ | ⟨_, _, _, rfl, ⟨work, lawful, rfl⟩, rfl, given⟩)
    · exact .rendered work _ (rendering explain) lawful nofun
    · rw [List.append_nil]
      exact .rendered work _ (rendering explain) lawful given

theorem course_printHelp (helping : helps) :
    (printHelp : Run σ CommandResult).Passes (Course helps dumps renders) := by
  refine passes_printHelp.mono ?_
  rintro ms result (⟨rfl, e, rfl⟩ | ⟨rfl, rfl⟩)
  · exact .stopped e
  · exact .helped helping

theorem course_documentNothing (helping : helps) :
    (documentNothing : Run σ CommandResult).Passes (Course helps dumps renders) := by
  have closing (result : CommandResult) :
      (do Run.report Reporter.finish; return result : Run σ CommandResult).Passes fun ms ended =>
        ms = [] ∧ ended = .ok result := by
    refine passes_of_adds ((adds_report _ fun _ => rfl).bind fun _ => adds_pure _) ?_
    rintro g h ended (⟨_, -, -, ⟨⟩⟩ | ⟨_, _, _, rfl, ⟨rfl, -⟩, rfl, rfl⟩)
    exact ⟨rfl, rfl⟩
  refine (quiet_print _).then .stopped fun _ => Passes.mono
    (fun start => (passes_printHelp start).bind fun result s' _ => closing result s') ?_
  rintro ms ended
    (⟨e, rfl, ⟨rfl, -⟩ | ⟨-, ⟨⟩⟩⟩ | ⟨_, _, _, rfl, ⟨rfl, _, ⟨⟩⟩ | ⟨rfl, ⟨⟩⟩, rfl, rfl⟩)
  · exact .stopped e
  · exact .helped helping

theorem course_document (p : Pipeline σ) (s : Setup) (start : RunState σ)
    (helping : p.FindsNothing start.desk s → helps)
    (dumping : s.options.explain = true → dumps) (rendering : s.options.explain = false → renders) :
    (p.document s).PassesFrom start (Course helps dumps renders) := by
  refine (quiet_report Reporter.start (fun _ => rfl) start).after .stopped fun _ s₁ started => ?_
  refine (quiet_tell _ s₁).after .stopped fun _ s₂ told => ?_
  refine (quiet_attempt _ s₂).after .stopped fun inputs s₃ loaded => ?_
  refine (quiet_checkFatal s₃).after .stopped fun _ s₄ _ => ?_
  cases empty : inputs.files.isEmpty with
  | true =>
    cases started
    cases told
    have found : p.FindsNothing start.desk s :=
      ⟨inputs, congrArg Prod.fst loaded, List.isEmpty_iff.mp empty⟩
    exact course_documentNothing (helping found) s₄
  | false => exact p.course_documentInputs s inputs dumping rendering s₄

theorem course_selfCheck (p : Pipeline σ) (s : Setup) :
    (p.selfCheck s).Passes (Course helps dumps renders) := by
  refine (quiet_attempt _).then .stopped fun _ => (quiet_act _).then .stopped fun _ =>
    (quiet_print _).then .stopped fun _ => passes_of_adds (adds_pure _) ?_
  rintro - h result ⟨rfl, rfl⟩
  exact .checked _

theorem course_carryOut (p : Pipeline σ) (s : Setup) (start : RunState σ)
    (helping : s.options.help = true ∨ p.FindsNothing start.desk s → helps)
    (dumping : s.options.explain = true → dumps) (rendering : s.options.explain = false → renders) :
    (p.carryOut s).PassesFrom start (Course helps dumps renders) := by
  refine (quiet_checkFatal start).after .stopped fun _ s' checked => ?_
  have same : s' = start := by
    rw [checkFatal_run] at checked
    exact (congrArg Prod.snd checked).symm
  subst same
  cases asked : s.options.help with
  | true => exact course_printHelp (helping (.inl asked)) _
  | false =>
    cases test : s.options.test with
    | true => exact p.course_selfCheck s _
    | false =>
      cases version : s.options.version with
      | true =>
        refine (quiet_print _).then .stopped (fun _ => passes_of_adds (adds_pure _) ?_) _
        rintro - h result ⟨rfl, rfl⟩
        exact .checked 0
      | false => exact p.course_document s _ (fun found => helping (.inr found)) dumping rendering

end

/-! ### Whole runs -/

/-- The setup of a run that starts at this desk is as wished. -/
def Asks (p : Pipeline σ) (desk : Desk σ) (wish : Setup → Prop) : Prop :=
  ∃ s, p.setup? desk.files = .ok s ∧ wish s

/-- The course of a run that starts at this desk. -/
abbrev CourseAt (p : Pipeline σ) (desk : Desk σ) :
    List Happening → Except Error CommandResult → Prop :=
  Course (p.Asks desk fun s => s.options.help = true ∨ p.FindsNothing desk s)
    (p.Asks desk (·.options.explain = true)) (p.Asks desk (·.options.explain = false))

theorem marks_configure (p : Pipeline σ) : p.configure.Marks [.entered .configuring] := by
  refine marks_of_adds p.adds_configure ?_
  rintro g h result ⟨first, middle, last, asides, rfl⟩
  rw [List.forall_mem_append, List.forall_mem_append] at asides
  obtain ⟨⟨none₁, none₂⟩, none₃⟩ := asides
  have arms : (arming result).filter (·.isMilestone) = [] := by
    unfold arming
    split
    · split <;> rfl
    · rfl
  simp only [List.filter_append, arms, filter_asides none₁, filter_asides none₂,
    filter_asides none₃]
  rfl

theorem course_command (p : Pipeline σ) (start : RunState σ) :
    p.command.PassesFrom start fun ms result =>
      ∃ rest, ms = .entered .configuring :: rest ∧ p.CourseAt start.desk rest result := by
  refine (p.marks_configure start).after (fun e => ⟨[], rfl, .stopped e⟩) fun setup s ran => ?_
  obtain ⟨setup_eq, desk, -⟩ := p.configure_run start
  rw [ran] at setup_eq desk
  have asks (wish : Setup → Prop) (holds : wish setup) : p.Asks start.desk wish :=
    ⟨setup, setup_eq.symm, holds⟩
  have taken : (p.carryOut setup).PassesFrom s (p.CourseAt start.desk) :=
    p.course_carryOut setup s (fun helping => asks _ (desk ▸ helping))
      (asks (·.options.explain = true)) (asks (·.options.explain = false))
  exact taken.mono fun _ ms _ passed => ⟨_, rfl, passed⟩

/-- Tutorials are looked for, and a template is called, only while rendering; `now` is the stage
before the first of what happens. -/
def WorksInRendering (now : Stage) : List Happening → Prop
  | [] => True
  | .entered stage :: h => WorksInRendering stage h
  | .published :: h | .sought _ :: h => now = .rendering ∧ WorksInRendering now h
  | _ :: h => WorksInRendering now h

theorem worksInRendering_filter {now : Stage} {h : List Happening} :
    WorksInRendering now (h.filter (·.isMilestone)) ↔ WorksInRendering now h := by
  induction h generalizing now with
  | nil => rfl
  | cons x h ih =>
    cases x with
    | published | sought => exact and_congr Iff.rfl ih
    | _ => exact ih

theorem worksInRendering_append {work : List Happening} (lawful : IsRenderingWork work)
    (rest : List Happening) :
    WorksInRendering .rendering (work ++ rest) ↔ WorksInRendering .rendering rest := by
  obtain ⟨-, known⟩ := lawful
  induction work with
  | nil => rfl
  | cons x work ih =>
    rw [List.forall_mem_cons] at known
    rcases known with ⟨rfl | ⟨dir, rfl⟩, known⟩ <;> simp [WorksInRendering, ih known]

theorem IsRenderingWork.stages_eq {work : List Happening} (lawful : IsRenderingWork work) :
    work.filterMap Happening.stage? = [] := by
  refine List.filterMap_eq_nil_iff.mpr fun x member => ?_
  rcases lawful.2 x member with rfl | ⟨dir, rfl⟩ <;> rfl

theorem stages_milestones (h : List Happening) :
    (h.filter (·.isMilestone)).filterMap Happening.stage? = h.filterMap Happening.stage? := by
  induction h with
  | nil => rfl
  | cons x h ih =>
    cases x with
    | entered stage => exact congrArg (stage :: ·) ih
    | _ => exact ih

/-- What the stages of a run between configuring and its end, the last stage, the outcome and the
rest of the history say of each other. -/
structure InOrder (p : Pipeline σ) (desk : Desk σ) (outcome : Outcome) (middle : List Stage)
    (last : Stage) (added : List Happening) : Prop where
  legal : middle = [] ∨ middle = [.helpPrinted] ∨
    middle <+: [.parsing, .postprocessing, .dumped] ∨
    middle <+: [.parsing, .postprocessing, .rendering]
  ended : last = .done ∨ last = .failed
  failed_iff : last = .failed ↔ outcome.error.isSome
  done_after : last = .done →
    middle.getLast? ≠ some .parsing ∧ middle.getLast? ≠ some .postprocessing
  helped : .helpPrinted ∈ middle →
    p.Asks desk fun s => s.options.help = true ∨ p.FindsNothing desk s
  dumped : .dumped ∈ middle → p.Asks desk (·.options.explain = true)
  rendered : .rendering ∈ middle → p.Asks desk (·.options.explain = false)
  doclets_iff : outcome.doclets.isSome ↔
    last = .done ∧ (middle.getLast? = some .dumped ∨ middle.getLast? = some .rendering)
  published : added.count .published ≤ 1
  works : WorksInRendering .idle added

theorem Course.inOrder (p : Pipeline σ) {desk : Desk σ} {ms : List Happening}
    {result : Except Error CommandResult} (taken : p.CourseAt desk ms result)
    {outcome : Outcome} {last : Stage} {added : List Happening}
    (milestones :
      added.filter (·.isMilestone) = .entered .configuring :: ms ++ [.entered last])
    (ends : Ends outcome last result) :
    p.InOrder desk outcome (ms.filterMap Happening.stage?) last added := by
  have published : added.count .published = ms.count .published := by
    rw [← List.count_filter (p := (·.isMilestone)) rfl, milestones]
    simp
  have works :
      WorksInRendering .idle added ↔ WorksInRendering .configuring (ms ++ [.entered last]) := by
    rw [← worksInRendering_filter, milestones]
    rfl
  -- The course leaves only what concrete lists of stages say, but for the work of rendering.
  cases taken with
  | stopped e =>
    obtain ⟨rfl, error, doclets, -⟩ := ends
    constructor <;> simp [error, doclets, published, works, WorksInRendering]
  | checked =>
    obtain ⟨rfl, error, doclets⟩ := ends
    constructor <;> simp [error, doclets, published, works, WorksInRendering]
  | helped helping =>
    obtain ⟨rfl, error, doclets⟩ := ends
    constructor <;>
      simp [Happening.stage?, error, doclets, published, works, WorksInRendering, helping]
  | parsing =>
    obtain ⟨rfl, error, doclets, -⟩ := ends
    constructor <;> simp [Happening.stage?, error, doclets, published, works, WorksInRendering]
  | postprocessing =>
    obtain ⟨rfl, error, doclets, -⟩ := ends
    constructor <;> simp [Happening.stage?, error, doclets, published, works, WorksInRendering]
  | dumped result dumping given =>
    cases result with
    | error e =>
      obtain ⟨rfl, error, doclets, -⟩ := ends
      constructor <;>
        simp [Happening.stage?, error, doclets, published, works, WorksInRendering, dumping]
    | ok c =>
      obtain ⟨rfl, error, doclets⟩ := ends
      constructor <;>
        simp [Happening.stage?, error, doclets, published, works, WorksInRendering, dumping, given]
  | rendered work result rendering lawful given =>
    have stages := lawful.stages_eq
    have once := lawful.1
    have resumed := worksInRendering_append lawful
    cases result with
    | error e =>
      obtain ⟨rfl, error, doclets, -⟩ := ends
      constructor <;>
        simp [Happening.stage?, error, doclets, published, works, WorksInRendering, rendering,
          stages, once, resumed]
    | ok c =>
      obtain ⟨rfl, error, doclets⟩ := ends
      constructor <;>
        simp [Happening.stage?, error, doclets, published, works, WorksInRendering, rendering,
          stages, once, resumed, given]

theorem run_stages (p : Pipeline σ) (start : RunState σ) (fresh : start.stages = [.idle]) :
    let (outcome, finish) := p.run start
    ∃ middle last added, outcome.stages = [.idle, .configuring] ++ middle ++ [last] ∧
      finish.history = start.history ++ added ∧
      p.InOrder start.desk outcome middle last added := by
  obtain ⟨h, history, -, rest, milestones, taken⟩ := p.course_command start
  obtain ⟨recorded, last, before, history', ends⟩ := p.run_ends start
  let added := h ++ [.logged (Run.leftEvent before last), .entered last]
  have all : (p.run start).2.history = start.history ++ added := by
    rw [history', history, List.append_assoc]
  have passed :
      added.filter (·.isMilestone) = .entered .configuring :: rest ++ [.entered last] := by
    rw [List.filter_append, milestones]
    rfl
  have unstaged : start.history.filterMap Happening.stage? = [] := (List.cons.inj fresh).2
  have stages : (p.run start).1.stages =
      [.idle, .configuring] ++ rest.filterMap Happening.stage? ++ [last] := by
    rw [recorded, RunState.stages, all, List.filterMap_append, unstaged, ← stages_milestones,
      passed]
    simp [Happening.stage?]
  exact ⟨_, last, added, stages, all, taken.inOrder p passed ends⟩

/-- A run that is asked for help. -/
theorem run_stages_help :
    let start : RunState Unit := { desk := lone }
    let (outcome, finish) := (plain ["--help"]).run start
    outcome.stages = [.idle, .configuring, .helpPrinted, .done] ∧
      ∃ middle last added, outcome.stages = [.idle, .configuring] ++ middle ++ [last] ∧
        finish.history = start.history ++ added ∧
        (plain ["--help"]).InOrder lone outcome middle last added := by
  intro start
  refine ⟨?_, run_stages (plain ["--help"]) start rfl⟩
  have opened : (((start.observe [Run.leftEvent start.stages.getLast? .configuring]).record
      (.entered .configuring)).record (.told (.phase "Configuring"))).desk = lone := rfl
  simp only [command, configure, Run.run_bind, Run.transition_run, Run.phase, Run.tell,
    Run.record_run, Run.attempt_run, RunState.perform]
  rw [opened, setup_plain ["--help"] { help := true } rfl rfl]
  rfl

end Pipeline

end RefDoc
