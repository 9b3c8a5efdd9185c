import RefDoc.Proofs.Parser.Joined
import RefDoc.Proofs.Run.Frame
import RefDoc.Proofs.Run.Guarded

/-!
# What a part of a run leads to

As long as nothing of note is logged, the gate lets a run go on. `Leads desk r r'` says that on this
desk, under an open gate, the part `r` comes to where it does what `r'` does, with nothing of note
on the way and the desk left alone. Parts in a row are handled by `Leads.then`, so that a run can be
followed to a place far down in it.
-/

namespace RefDoc

variable {σ α β : Type}

/-- From `s` to `s'` the desk and the gate are left alone, and nothing of note is logged. -/
structure RunState.Calm (s s' : RunState σ) : Prop where
  desk : s'.desk = s.desk
  gate : s'.reporter.gate = s.reporter.gate
  history : ∃ h, s'.history = s.history ++ h ∧ ∀ x ∈ h, x.IsCalm

theorem RunState.calm_same (s : RunState σ) : s.Calm s :=
  ⟨rfl, rfl, [], (List.append_nil _).symm, List.forall_mem_nil _⟩

theorem RunState.Calm.trans {s s' s'' : RunState σ} (first : s.Calm s') (second : s'.Calm s'') :
    s.Calm s'' := by
  obtain ⟨desk, gate, h, history, calm⟩ := first
  obtain ⟨desk', gate', h', history', calm'⟩ := second
  refine ⟨desk'.trans desk, gate'.trans gate, h ++ h', ?_, List.forall_mem_append.mpr ⟨calm, calm'⟩⟩
  rw [history', history, List.append_assoc]

theorem RunState.calm_record (s : RunState σ) {x : Happening} (calm : x.IsCalm) :
    s.Calm (s.record x) :=
  ⟨rfl, rfl, [x], rfl, List.forall_mem_singleton.mpr calm⟩

theorem RunState.calm_observe (s : RunState σ) {es : List Event}
    (harmless : ∀ e ∈ es, e.Harmless) : s.Calm (s.observe es) := by
  have calm : ∀ x ∈ es.map Happening.logged, x.IsCalm := List.forall_mem_map.mpr harmless
  have gate := s.reporter.gate.followAll_calm calm
  rw [Gate.followAll_logged] at gate
  exact ⟨rfl, gate, _, rfl, calm⟩

namespace Run

def Leads (desk : Desk σ) (r r' : Run σ α) : Prop :=
  ∀ s, s.desk = desk → s.reporter.gate.Open → ∃ s', s.Calm s' ∧ r.run s = r'.run s'

variable {desk : Desk σ} {r r' r'' : Run σ α} {f : α → Run σ β} {v : α}

theorem Leads.refl (desk : Desk σ) (r : Run σ α) : Leads desk r r :=
  fun s _ _ => ⟨s, s.calm_same, rfl⟩

theorem Leads.trans (first : Leads desk r r') (second : Leads desk r' r'') :
    Leads desk r r'' := by
  intro s here opened
  obtain ⟨s', calm, ran⟩ := first s here opened
  obtain ⟨s'', calm', ran'⟩ := second s' (calm.desk.trans here) (calm.gate ▸ opened)
  exact ⟨s'', calm.trans calm', ran.trans ran'⟩

theorem Leads.bind (h : Leads desk r r') (f : α → Run σ β) : Leads desk (r >>= f) (r' >>= f) := by
  intro s here opened
  obtain ⟨s', calm, ran⟩ := h s here opened
  exact ⟨s', calm, by rw [run_bind, ran, ← run_bind]⟩

/-- First a part that ends well, and then what comes behind it. -/
theorem Leads.then (first : Leads desk r (pure v)) {q : Run σ β} (next : Leads desk (f v) q) :
    Leads desk (r >>= f) q := by
  have behind := first.bind f
  rw [pure_bind] at behind
  exact behind.trans next

/-! ### Primitives -/

theorem leads_log {e : Event} (harmless : e.Harmless) : Leads desk (log e) (pure ()) :=
  fun s _ _ => ⟨s.observe [e], s.calm_observe (List.forall_mem_singleton.mpr harmless), rfl⟩

theorem leads_record {x : Happening} (calm : x.IsCalm) : Leads desk (record x) (pure ()) :=
  fun s _ _ => ⟨s.record x, s.calm_record calm, record_run x s⟩

theorem leads_tell (p : Progress) : Leads desk (tell p) (pure ()) := leads_record trivial

theorem leads_enter (stage : Stage) : Leads desk (enter stage) (pure ()) := leads_record trivial

theorem leads_report (change : Reporter → Reporter) (keeps : ∀ r, (change r).gate = r.gate) :
    Leads desk (report change) (pure ()) := fun s _ _ =>
  ⟨{ s with reporter := change s.reporter },
    ⟨rfl, keeps _, [], (List.append_nil _).symm, List.forall_mem_nil _⟩, rfl⟩

theorem leads_transition (stage : Stage) : Leads desk (transition stage) (pure ()) := by
  intro s _ _
  have harmless : ∀ e ∈ [leftEvent s.stages.getLast? stage], e.Harmless :=
    List.forall_mem_singleton.mpr (.inl rfl)
  have entered : Happening.IsCalm (.entered stage) := trivial
  exact ⟨_, (s.calm_observe harmless).trans (RunState.calm_record _ entered),
    transition_run stage s⟩

theorem leads_checkFatal : Leads desk checkFatal (pure ()) := by
  intro s _ opened
  refine ⟨s, s.calm_same, ?_⟩
  rw [checkFatal_run, Gate.check_eq, opened]
  rfl

theorem leads_attempt {a : Attempt σ α} {log : List Event}
    (ran : a.run.run desk = (.ok v, desk, log)) (harmless : ∀ e ∈ log, e.Harmless) :
    Leads desk (attempt a) (pure v) := by
  rintro s rfl -
  refine ⟨s.observe log, s.calm_observe harmless, ?_⟩
  rw [attempt_run, RunState.perform, ran]
  rfl

theorem leads_act {a : Act σ α} {log : List Event} (ran : a.run desk = (v, desk, log))
    (harmless : ∀ e ∈ log, e.Harmless) : Leads desk (act a) (pure v) := by
  rintro s rfl -
  refine ⟨s.observe log, s.calm_observe harmless, ?_⟩
  rw [act_run, RunState.perform, ran]
  rfl

theorem leads_stop : Leads desk Run.watch.stop (pure false) := by
  intro s _ opened
  refine ⟨s, s.calm_same, ?_⟩
  show (Except.ok s.reporter.gate.raised, s) = _
  rw [Gate.raised_eq_false_iff.mpr opened]
  rfl

end Run

/-! ### Parsing -/

open Run

theorem Parser.leads_parseWatched {p : Parser σ} (unheard : p.Unheard) {desk : Desk σ}
    {encoding : Encoding} {file : Path} {text : String}
    (source : readSource desk.files encoding file = .ok text) :
    Leads desk (p.parseWatched Run.watch [file] encoding)
      (pure ([file], Collection.empty.pushAll (docletsOf file text.toList))) := by
  have begins : Leads desk (Run.act (p.fireParseBegin [file])) (pure [file]) := by
    rw [fireParseBegin, unheard.bare]
    exact leads_act rfl (List.forall_mem_nil _)
  have parses : Leads desk (Run.act (p.parseFile encoding file .empty)) (pure (some _)) :=
    leads_act (parseFile_unheard unheard source .empty) (List.forall_mem_nil _)
  have ends (c : Collection) : Leads desk (Run.act (p.complete [file] c)) (pure ()) := by
    rw [complete, fireParseComplete, unheard.bare]
    exact leads_act rfl (List.forall_mem_singleton.mpr (.inl rfl))
  have opened : Leads desk (Run.watch.opened file : Run σ Unit) (pure ()) := leads_record trivial
  have told : Leads desk (Run.watch.parsed file 1 1 : Run σ Unit) (pure ()) := leads_tell _
  refine begins.then ?_
  refine Leads.then (leads_stop.then (opened.then (parses.then (told.then (Leads.refl _ _))))) ?_
  exact (ends _).then (Leads.refl _ _)

/-- Without plugins nobody listens to the parse of a run. -/
theorem Pipeline.leads_parse (p : Pipeline σ) (s : Setup) (inputs : Inputs) {desk : Desk σ}
    {file : Path} {text : String} (unplugged : s.config.plugins.getD [] = [])
    (encoding : s.options.encodingName = Options.defaultEncoding) (files : inputs.files = [file])
    (source : Parser.readSource desk.files .utf8 file = .ok text) :
    ∃ parser doclets, parser.handlers = {} ∧
      Leads desk (p.parse s inputs) (pure (parser, doclets)) := by
  let parser : Parser σ := { config := s.config.parser, standard := true }
  have unheard : parser.Unheard := ⟨rfl, rfl⟩
  let job : ParseJob σ :=
    { config := s.config, options := s.options, package := inputs.package
      locator := p.locator, catalog := p.catalog }
  have plain : job.parser.run.run desk = (.ok parser, desk, []) := by
    rw [ParseJob.parser]
    cases listed : s.config.plugins with
    | none => rfl
    | some specifiers =>
      obtain rfl : specifiers = [] := by rwa [listed] at unplugged
      rfl
  have made : Leads desk (Run.attempt job.parser) (pure parser) :=
    leads_attempt plain (List.forall_mem_nil _)
  have read : Leads desk (Run.act (Encoding.ofName s.options.encodingName)) (pure .utf8) := by
    rw [encoding, encoding_default]
    exact leads_act rfl (List.forall_mem_nil _)
  let doclets := (Collection.empty.pushAll (Parser.docletsOf file text.toList)).push
    (.ofPackage inputs.package [file])
  have parsed : Leads desk (job.parse Run.watch parser inputs.files) (pure ([file], doclets)) := by
    rw [files]
    exact read.then ((Parser.leads_parseWatched unheard source).then (Leads.refl _ _))
  refine ⟨parser, doclets, rfl, ?_⟩
  refine (leads_enter _).then ((leads_log (.inl rfl)).then ((leads_tell _).then ?_))
  refine made.then (leads_checkFatal.then (parsed.then ?_))
  exact (leads_log (.inr rfl)).then (leads_checkFatal.then (Leads.refl _ _))

end RefDoc
