import RefDoc.Run.Basic

/-!
# What a run adds to its history

A part of a run only ever adds to the history, and what it adds tells what becomes of the gate
(`Gate.followAll`). `r.Adds Q` says so of the part `r`, and that `Q` holds of the gate it starts
with, of what it adds and of how it ends. Every primitive of runs has a lemma here, and `Adds.bind`
is the rule for two parts in a row.
-/

namespace RefDoc

variable {σ α β : Type}

/-! ### The gate along a history -/

namespace Gate

/-- What becomes of the gate when something happens. -/
def follow (g : Gate) : Happening → Gate
  | .logged e => g.observe e
  | .armed pedantic => g.arm pedantic
  | _ => g

def followAll (g : Gate) (h : List Happening) : Gate := h.foldl follow g

@[simp] theorem followAll_nil (g : Gate) : g.followAll [] = g := rfl

@[simp] theorem followAll_cons (g : Gate) (x : Happening) (h : List Happening) :
    g.followAll (x :: h) = (g.follow x).followAll h := rfl

@[simp] theorem followAll_append (g : Gate) (h h' : List Happening) :
    g.followAll (h ++ h') = (g.followAll h).followAll h' := List.foldl_append

theorem followAll_logged (g : Gate) (es : List Event) :
    g.followAll (es.map .logged) = g.observeAll es := List.foldl_map

end Gate

/-- An event that no gate minds. -/
def Event.Harmless (e : Event) : Prop := e.level = .debug ∨ e.level = .info

/-- What is neither work nor of any concern to the gate. -/
def Happening.IsAside : Happening → Prop
  | .logged e => e.Harmless
  | .told _ => True
  | _ => False

/-- What is of no concern to the gate. -/
def Happening.IsCalm : Happening → Prop
  | .logged e => e.Harmless
  | .armed _ => False
  | _ => True

theorem Happening.IsAside.calm {x : Happening} (aside : x.IsAside) : x.IsCalm := by
  cases x with
  | logged => exact aside
  | told => trivial
  | _ => exact aside.elim

namespace Gate

@[simp] theorem observe_harmless (g : Gate) {e : Event} (harmless : e.Harmless) :
    g.observe e = g := by
  rcases harmless with level | level <;> cases policy : g.policy <;> simp [observe, level, policy]

theorem followAll_calm (g : Gate) {h : List Happening} (calm : ∀ x ∈ h, x.IsCalm) :
    g.followAll h = g := by
  induction h with
  | nil => rfl
  | cons x h ih =>
    obtain ⟨head, tail⟩ := List.forall_mem_cons.mp calm
    have same : g.follow x = g := by
      cases x with
      | logged e => exact g.observe_harmless head
      | armed => exact head.elim
      | _ => rfl
    rw [followAll_cons, same, ih tail]

theorem followAll_asides (g : Gate) {h : List Happening} (asides : ∀ x ∈ h, x.IsAside) :
    g.followAll h = g :=
  g.followAll_calm fun x member => (asides x member).calm

end Gate

/-! ### Running the primitives -/

namespace Run

@[simp] theorem pure_run (v : α) (s : RunState σ) : (pure v : Run σ α).run s = (.ok v, s) := rfl

theorem run_bind (r : Run σ α) (f : α → Run σ β) (s : RunState σ) :
    (r >>= f).run s =
      match r.run s with
      | (.ok v, s) => (f v).run s
      | (.error e, s) => (.error e, s) := by
  show (do let (a, s) ← r.run s; (ExceptT.bindCont f a) s : Id _) = _
  rcases r.run s with ⟨_ | _, _⟩ <;> rfl

theorem bind_of_ok {r : Run σ α} {s s' : RunState σ} {v : α} (ran : r.run s = (.ok v, s'))
    (f : α → Run σ β) : (r >>= f).run s = (f v).run s' := by
  rw [run_bind, ran]

@[simp] theorem get_run (s : RunState σ) : (get : Run σ (RunState σ)).run s = (.ok s, s) := rfl

@[simp] theorem modify_run (change : RunState σ → RunState σ) (s : RunState σ) :
    (modify change : Run σ Unit).run s = (.ok (), change s) := rfl

@[simp] theorem act_run (a : Act σ α) (s : RunState σ) :
    (act a).run s = (.ok (s.perform a).1, (s.perform a).2) := rfl

@[simp] theorem attempt_run (a : Attempt σ α) (s : RunState σ) :
    (attempt a).run s = s.perform a.run := rfl

@[simp] theorem log_run (e : Event) (s : RunState σ) :
    (log e : Run σ Unit).run s = (.ok (), s.observe [e]) := rfl

@[simp] theorem record_run (x : Happening) (s : RunState σ) :
    (record x : Run σ Unit).run s = (.ok (), s.record x) := rfl

@[simp] theorem report_run (change : Reporter → Reporter) (s : RunState σ) :
    (report change : Run σ Unit).run s = (.ok (), { s with reporter := change s.reporter }) := rfl

theorem transition_run (stage : Stage) (s : RunState σ) :
    (transition stage : Run σ Unit).run s =
      (.ok (), (s.observe [leftEvent s.stages.getLast? stage]).record (.entered stage)) := rfl

theorem arm_run (pedantic : Bool) (s : RunState σ) :
    (arm pedantic : Run σ Unit).run s =
      (.ok (), ({ s with reporter := s.reporter.arm pedantic }.record (.armed pedantic)).observe
        [(s.reporter.arm pedantic).armedEvent]) := rfl

@[simp] theorem checkFatal_run (s : RunState σ) :
    (checkFatal : Run σ Unit).run s = (s.reporter.gate.check, s) := rfl

theorem print_run (text : String) (s : RunState σ) :
    (print text : Run σ Unit).run s =
      ((s.output.take s.printed text).2.elim (.ok ()) fun reason => .error (.io outputName reason),
        { s with printed := s.printed ++ (s.output.take s.printed text).1 }) := by
  cases fault : (s.output.take s.printed text).2 <;> simp [print, ExceptT.run, fault]

theorem print_taken {text : String} {s : RunState σ}
    (taken : s.output.take s.printed text = (text, none)) :
    (print text : Run σ Unit).run s = (.ok (), { s with printed := s.printed ++ text }) := by
  rw [print_run, taken]
  rfl

/-! ### Parts of a run -/

/-- What may be said of a part of a run, by the gate it starts with, what it adds to the history and
how it ends. -/
abbrev Account (α : Type) := Gate → List Happening → Except Error α → Prop

/-- The part, run from `s`, adds to the history and ends as the account says; the gate follows. -/
def AddsFrom (r : Run σ α) (s : RunState σ) (Q : Account α) : Prop :=
  ∃ h, (r.run s).2.history = s.history ++ h ∧
    (r.run s).2.reporter.gate = s.reporter.gate.followAll h ∧ Q s.reporter.gate h (r.run s).1

def Adds (r : Run σ α) (Q : Account α) : Prop := ∀ s, r.AddsFrom s Q

/-- One part and then another: either the first ends with an error, or both are gone through. -/
def Account.bind (Q : Account α) (K : α → Account β) : Account β := fun g h result =>
  (∃ e, result = .error e ∧ Q g h (.error e)) ∨
    ∃ v before after, h = before ++ after ∧ Q g before (.ok v) ∧
      K v (g.followAll before) after result

variable {r : Run σ α} {f : α → Run σ β} {Q Q' : Account α} {K : α → Account β} {s : RunState σ}

theorem AddsFrom.mono (h : r.AddsFrom s Q) (weaken : ∀ g h result, Q g h result → Q' g h result) :
    r.AddsFrom s Q' := by
  obtain ⟨added, history, gate, holds⟩ := h
  exact ⟨added, history, gate, weaken _ _ _ holds⟩

theorem Adds.mono (h : r.Adds Q) (weaken : ∀ g h result, Q g h result → Q' g h result) :
    r.Adds Q' := fun s => (h s).mono weaken

theorem AddsFrom.bind (first : r.AddsFrom s Q)
    (next : ∀ v s', r.run s = (.ok v, s') → (f v).AddsFrom s' (K v)) :
    (r >>= f).AddsFrom s (Q.bind K) := by
  obtain ⟨before, history, gate, holds⟩ := first
  rw [AddsFrom, run_bind]
  rcases ended : r.run s with ⟨e | v, s'⟩ <;> rw [ended] at history gate holds
  · exact ⟨before, history, gate, .inl ⟨e, rfl, holds⟩⟩
  · obtain ⟨after, history', gate', holds'⟩ := next v s' ended
    refine ⟨before ++ after, ?_, ?_, .inr ⟨v, before, after, rfl, holds, ?_⟩⟩
    · rw [history', history, List.append_assoc]
    · rw [gate', gate, Gate.followAll_append]
    · rw [gate] at holds'
      exact holds'

theorem Adds.bind (first : r.Adds Q) (next : ∀ v, (f v).Adds (K v)) :
    (r >>= f).Adds (Q.bind K) := fun s => (first s).bind fun v s' _ => next v s'

/-! ### Primitives -/

theorem adds_pure (v : α) :
    (pure v : Run σ α).Adds fun _ h result => h = [] ∧ result = .ok v :=
  fun s => ⟨[], (List.append_nil s.history).symm, rfl, rfl, rfl⟩

theorem adds_log (e : Event) :
    (log e : Run σ Unit).Adds fun _ h result => h = [.logged e] ∧ result = .ok () :=
  fun _ => ⟨[.logged e], rfl, rfl, rfl, rfl⟩

theorem adds_act (a : Act σ α) :
    (act a).Adds fun _ h result =>
      ∃ desk, h = (a.run desk).2.2.map .logged ∧ result = .ok (a.run desk).1 :=
  fun s => ⟨_, rfl, (Gate.followAll_logged _ _).symm, s.desk, rfl, rfl⟩

theorem adds_attempt (a : Attempt σ α) :
    (attempt a).Adds fun _ h result =>
      ∃ desk, h = (a.run.run desk).2.2.map .logged ∧ result = (a.run.run desk).1 :=
  fun s => ⟨_, rfl, (Gate.followAll_logged _ _).symm, s.desk, rfl, rfl⟩

/-- What is recorded is no concern of the gate, but for events and arming. -/
theorem adds_record {x : Happening} (unseen : ∀ g : Gate, g.follow x = g) :
    (record x : Run σ Unit).Adds fun _ h result => h = [x] ∧ result = .ok () :=
  fun s => ⟨[x], rfl, (unseen s.reporter.gate).symm, rfl, rfl⟩

theorem adds_tell (p : Progress) :
    (tell p : Run σ Unit).Adds fun _ h result => h = [.told p] ∧ result = .ok () :=
  adds_record fun _ => rfl

theorem adds_report (change : Reporter → Reporter) (keeps : ∀ r, (change r).gate = r.gate) :
    (report change : Run σ Unit).Adds fun _ h result => h = [] ∧ result = .ok () :=
  fun s => ⟨[], (List.append_nil s.history).symm, keeps s.reporter, rfl, rfl⟩

theorem adds_get :
    (get : Run σ (RunState σ)).Adds fun g h result =>
      h = [] ∧ ∃ s, result = .ok s ∧ s.reporter.gate = g :=
  fun s => ⟨[], (List.append_nil s.history).symm, rfl, rfl, s, rfl, rfl⟩

/-- Printing may fail, and is no part of the history. -/
theorem adds_print (text : String) :
    (print text : Run σ Unit).Adds fun _ h result =>
      h = [] ∧ (result = .ok () ∨ ∃ reason, result = .error (.io outputName reason)) := by
  intro s
  rw [AddsFrom, print_run]
  refine ⟨[], (List.append_nil s.history).symm, rfl, rfl, ?_⟩
  cases (s.output.take s.printed text).2 with
  | none => exact .inl rfl
  | some reason => exact .inr ⟨reason, rfl⟩

theorem adds_checkFatal :
    (checkFatal : Run σ Unit).Adds fun g h result => h = [] ∧ result = g.check :=
  fun s => ⟨[], (List.append_nil s.history).symm, rfl, rfl, rfl⟩

theorem adds_throw (e : Error) :
    (throw e : Run σ α).Adds fun _ h result => h = [] ∧ result = .error e :=
  fun s => ⟨[], (List.append_nil s.history).symm, rfl, rfl, rfl⟩

/-- What is recorded at the end of a template. -/
def parting : Except Error Unit → List Happening
  | .ok _ => []
  | .error e => [.abandoned e]

theorem adds_settled (r : Except Error Unit) :
    (match r with
      | .ok () => pure ()
      | .error e => do
        record (.abandoned e)
        throw e : Run σ Unit).Adds fun _ h result => result = r ∧ h = parting r := by
  cases r with
  | ok v => exact (adds_pure ()).mono fun _ _ _ ended => ended.symm
  | error e =>
    refine ((adds_record fun _ => rfl).bind fun _ => adds_throw e).mono ?_
    rintro g h result (⟨_, -, -, ⟨⟩⟩ | ⟨_, _, _, rfl, ⟨rfl, -⟩, rfl, rfl⟩)
    exact ⟨rfl, rfl⟩

theorem adds_publish (t : Template σ) (doclets : Collection) (options : Options)
    (tutorials : TutorialTree) :
    (publish t doclets options tutorials).Adds fun _ h result =>
      ∃ desk, let ended := (t.publish doclets options tutorials).run.run desk
        result = ended.1 ∧ h = .published :: ended.2.2.map .logged ++ parting ended.1 := by
  refine ((adds_record fun _ => rfl).bind fun _ => (adds_act _).bind adds_settled).mono ?_
  rintro g h result (⟨_, -, -, ⟨⟩⟩ | ⟨_, _, _, rfl, ⟨rfl, -⟩, made⟩)
  obtain ⟨_, -, _, -, ⟨⟩⟩ | ⟨_, _, _, rfl, ⟨desk, rfl, made⟩, rfl, rfl⟩ := made
  cases made
  exact ⟨desk, rfl, rfl⟩

/-- A change of stage is logged at the lowest level. -/
theorem adds_transition (stage : Stage) :
    (transition stage : Run σ Unit).Adds fun _ h result =>
      ∃ before, h = [.logged (leftEvent before stage), .entered stage] ∧ result = .ok () :=
  fun s => ⟨[.logged (leftEvent s.stages.getLast? stage), .entered stage],
    List.append_assoc s.history _ _, rfl, s.stages.getLast?, rfl, rfl⟩

end Run

end RefDoc
