import RefDoc.Proofs.Run.History

/-!
# Work under the gate

Once the gate is raised, no work may be begun: no stage but the last may be entered, no file taken
up and no template called (`Gate.Governs`). `Guards strict pre r post` says that the part `r`, begun
with a gate of which `pre` holds, keeps to that if `strict` holds, that `post` holds of the gate when
the part ends well, and that it ends fatally only with the message of the gate, or as a template
did. The rule for two parts in a row is that of Hoare triples.
-/

namespace RefDoc

variable {σ α β : Type}

/-- The message of a logged error. -/
def Happening.fault? : Happening → Option String
  | .logged e => if e.level = .error then some (e.message.getD "") else none
  | _ => none

def Happening.IsArming : Happening → Prop
  | .armed _ => True
  | _ => False

/-- What is not to be begun once the gate is raised. -/
def Happening.IsWork : Happening → Prop
  | .entered stage => stage ≠ .failed
  | .opened _ | .sought _ | .published => True
  | _ => False

namespace Happening

theorem IsCalm.plain {x : Happening} (calm : x.IsCalm) : ¬ x.IsArming := by
  cases x <;> first | exact calm.elim | exact id

theorem IsCalm.no_fault {x : Happening} (calm : x.IsCalm) : x.fault? = none := by
  cases x with
  | logged e => rcases calm with level | level <;> simp [fault?, level]
  | _ => rfl

theorem findSome?_fault_calm {h : List Happening} (calm : ∀ x ∈ h, x.IsCalm) :
    h.findSome? fault? = none :=
  List.findSome?_eq_none_iff.mpr fun x member => (calm x member).no_fault

end Happening

namespace Gate

/-! ### The gate along a history -/

/-- Nothing has raised the gate. -/
def Open (g : Gate) : Prop := g.fatal = none

theorem policy_follow (g : Gate) {x : Happening} (plain : ¬ x.IsArming) :
    (g.follow x).policy = g.policy := by
  cases x with
  | logged e => simp only [follow, observe]; split <;> rfl
  | armed => exact absurd trivial plain
  | _ => rfl

theorem policy_followAll (g : Gate) {h : List Happening} (plain : ∀ x ∈ h, ¬ x.IsArming) :
    (g.followAll h).policy = g.policy := by
  induction h generalizing g with
  | nil => rfl
  | cons x h ih =>
    obtain ⟨head, tail⟩ := List.forall_mem_cons.mp plain
    rw [followAll_cons, ih _ tail, policy_follow g head]

/-- A raised gate keeps its message. -/
theorem fatal_follow {g : Gate} {m : String} (raised : g.fatal = some m) (x : Happening) :
    (g.follow x).fatal = some m := by
  cases x with
  | logged e => simp only [follow, observe]; split <;> simp [raised]
  | _ => exact raised

theorem fatal_followAll {g : Gate} {m : String} (raised : g.fatal = some m) (h : List Happening) :
    (g.followAll h).fatal = some m := by
  induction h generalizing g with
  | nil => exact raised
  | cons x h ih => exact ih (fatal_follow raised x)

/-- The first error is the one that a pedantic gate keeps. -/
theorem fatal_pedantic {g : Gate} {h : List Happening} (pedantic : g.policy = .pedantic)
    (plain : ∀ x ∈ h, ¬ x.IsArming) :
    (g.followAll h).fatal = g.fatal.or (h.findSome? Happening.fault?) := by
  induction h generalizing g with
  | nil => simp
  | cons x h ih =>
    obtain ⟨head, tail⟩ := List.forall_mem_cons.mp plain
    have still : (g.follow x).policy = .pedantic := (policy_follow g head).trans pedantic
    rw [followAll_cons, ih still tail]
    cases x with
    | logged e =>
      cases level : e.level <;> cases raised : g.fatal <;>
        simp [follow, observe, Happening.fault?, pedantic, level, raised]
    | armed => exact absurd trivial head
    | _ => rfl

/-- What may happen under the gate once it is armed. -/
def Permits (strict : Prop) (g : Gate) (x : Happening) : Prop :=
  (strict → x.IsWork → g.Open) ∧ ¬ x.IsArming

/-- All that happens is permitted by the gate of that time. -/
def Governs (strict : Prop) (g : Gate) : List Happening → Prop
  | [] => True
  | x :: h => g.Permits strict x ∧ (g.follow x).Governs strict h

variable {strict : Prop}

theorem governs_append {g : Gate} {h h' : List Happening} :
    g.Governs strict (h ++ h') ↔ g.Governs strict h ∧ (g.followAll h).Governs strict h' := by
  induction h generalizing g with
  | nil => simp [Governs]
  | cons x h ih => simp [Governs, ih, and_assoc]

theorem Governs.plain {g : Gate} {h : List Happening} (governed : g.Governs strict h) :
    ∀ x ∈ h, ¬ x.IsArming := by
  induction h generalizing g with
  | nil => simp
  | cons x h ih => exact List.forall_mem_cons.mpr ⟨governed.1.2, ih governed.2⟩

/-- Under a raised gate no work is begun. -/
theorem Governs.idle {g : Gate} {h : List Happening} (holds : strict)
    (governed : g.Governs strict h) {m : String} (raised : g.fatal = some m) :
    ∀ x ∈ h, ¬ x.IsWork := by
  induction h generalizing g with
  | nil => simp
  | cons x h ih =>
    refine List.forall_mem_cons.mpr ⟨fun work => ?_, ih governed.2 (fatal_follow raised x)⟩
    have open_ : g.fatal = none := governed.1.1 holds work
    rw [raised] at open_
    cases open_

/-- A logged error raises a pedantic gate for good, and no work is begun after it. -/
theorem Governs.stopped {g : Gate} {between after : List Happening} {e : Event}
    (pedantic : g.policy = .pedantic) (holds : strict)
    (governed : g.Governs strict (between ++ .logged e :: after)) (level : e.level = .error) :
    (∀ x ∈ after, ¬ x.IsWork) ∧ ¬ (g.followAll (between ++ .logged e :: after)).Open := by
  obtain ⟨first, -, second⟩ := governs_append.mp governed
  have still : (g.followAll between).policy = .pedantic :=
    (policy_followAll g first.plain).trans pedantic
  obtain ⟨m, raised⟩ : ∃ m, ((g.followAll between).follow (.logged e)).fatal = some m := by
    cases raised : (g.followAll between).fatal <;> simp [follow, observe, still, level, raised]
  refine ⟨second.idle holds raised, ?_⟩
  rw [followAll_append, followAll_cons, Open, fatal_followAll raised after]
  exact Option.some_ne_none m

theorem governs_asides {g : Gate} {h : List Happening} (asides : ∀ x ∈ h, x.IsAside) :
    g.Governs strict h := by
  induction h generalizing g with
  | nil => trivial
  | cons x h ih =>
    obtain ⟨aside, asides⟩ := List.forall_mem_cons.mp asides
    refine ⟨?_, ih asides⟩
    cases x <;> first | exact aside.elim | exact ⟨fun _ => False.elim, id⟩

/-- Asides before and the last stage after it are permitted as well. -/
theorem Governs.around {g : Gate} {first h : List Happening} {e : Event} {stage : Stage}
    (governed : g.Governs strict h) (asides : ∀ x ∈ first, x.IsAside) (harmless : e.Harmless)
    (permitted : stage = .failed ∨ (g.followAll h).Open) :
    g.Governs strict (first ++ h ++ [.logged e, .entered stage]) := by
  refine governs_append.mpr ⟨governs_append.mpr ⟨governs_asides asides, ?_⟩, ?_⟩
  · rwa [g.followAll_asides asides]
  · rw [followAll_append, g.followAll_asides asides]
    refine ⟨⟨fun _ => False.elim, id⟩, ⟨fun _ work => ?_, id⟩, trivial⟩
    rw [follow, observe_harmless _ harmless]
    exact permitted.resolve_left work

theorem governs_logged {g : Gate} (es : List Event) : g.Governs strict (es.map .logged) := by
  induction es generalizing g with
  | nil => trivial
  | cons e es ih => exact ⟨⟨fun _ => False.elim, id⟩, ih⟩

end Gate

namespace Run

/-! ### Parts of a run -/

/-- The part keeps to what the gate permits. -/
def Guards (strict : Prop) (pre : Gate → Prop) (r : Run σ α) (post : Gate → Prop) : Prop :=
  r.Adds fun g h result => pre g →
    g.Governs strict h ∧ (∀ v, result = .ok v → post (g.followAll h)) ∧
      ∀ m, result = .error (.fatal m) →
        (g.followAll h).fatal = some m ∨ .abandoned (.fatal m) ∈ h

/-- Any gate. -/
def anyGate (_ : Gate) : Prop := True

section Rules

variable {strict : Prop} {P Q R : Gate → Prop} {r : Run σ α} {f : α → Run σ β}

theorem Guards.bind (first : Guards strict P r Q)
    (next : ∀ v, (∃ s, (r.run s).1 = .ok v) → Guards strict Q (f v) R) :
    Guards strict P (r >>= f) R := by
  intro s
  refine (AddsFrom.bind (first s) fun v s' ran => next v ⟨s, congrArg Prod.fst ran⟩ s').mono ?_
  rintro g h result (⟨e, rfl, holds⟩ | ⟨v, before, after, rfl, holds, holds'⟩) pre
  · obtain ⟨governed, -, fatal⟩ := holds pre
    exact ⟨governed, nofun, fun m ended => fatal m (by cases ended; rfl)⟩
  · obtain ⟨governed, post, -⟩ := holds pre
    obtain ⟨governed', post', fatal⟩ := holds' (post v rfl)
    rw [Gate.followAll_append]
    exact ⟨Gate.governs_append.mpr ⟨governed, governed'⟩, post', fun m ended =>
      (fatal m ended).imp_right (List.mem_append_right before)⟩

theorem Guards.then (first : Guards strict P r Q) (next : ∀ v, Guards strict Q (f v) R) :
    Guards strict P (r >>= f) R := first.bind fun v _ => next v

theorem Guards.weaken {P' Q' : Gate → Prop} (h : Guards strict P r Q) (pre : ∀ g, P' g → P g)
    (post : ∀ g, Q g → Q' g) : Guards strict P' r Q' :=
  fun s => (h s).mono fun g _ _ holds before => by
    obtain ⟨governed, after, fatal⟩ := holds (pre g before)
    exact ⟨governed, fun v ended => post _ (after v ended), fatal⟩

theorem Guards.toAny (h : Guards strict P r Q) : Guards strict P r anyGate :=
  h.weaken (fun _ => id) fun _ _ => trivial

end Rules

section Primitives

variable {strict : Prop} {P : Gate → Prop} {r : Run σ α} {Q : Account α}

theorem guards_quiet (h : r.Adds Q) (asides : ∀ g h result, Q g h result → ∀ x ∈ h, x.IsAside)
    (mild : ∀ g h m, ¬ Q g h (.error (.fatal m))) : Guards strict P r P :=
  fun s => (h s).mono fun g h result holds pre => by
    have same := g.followAll_asides (asides g h result holds)
    refine ⟨Gate.governs_asides (asides g h result holds), fun _ _ => by rwa [same], ?_⟩
    rintro m rfl
    exact (mild g h m holds).elim

theorem guards_logging (h : r.Adds Q)
    (logs : ∀ g h result, Q g h result → ∃ es : List Event, h = es.map .logged)
    (mild : ∀ g h m, ¬ Q g h (.error (.fatal m))) : Guards strict P r anyGate :=
  fun s => (h s).mono fun g h result holds _ => by
    obtain ⟨es, rfl⟩ := logs g h result holds
    refine ⟨Gate.governs_logged es, fun _ _ => trivial, ?_⟩
    rintro m rfl
    exact (mild _ _ m holds).elim

/-- Work may be begun while the gate is open. -/
theorem guards_record {x : Happening} (unseen : ∀ g : Gate, g.follow x = g)
    (plain : ¬ x.IsArming) :
    Guards strict Gate.Open (record x : Run σ Unit) Gate.Open :=
  fun s => (adds_record unseen s).mono fun g h result added open_ => by
    obtain ⟨rfl, rfl⟩ := added
    have still : (g.followAll [x]).Open := by simpa [unseen] using open_
    exact ⟨⟨⟨fun _ _ => open_, plain⟩, trivial⟩, fun _ _ => still, nofun⟩

theorem guards_pure (v : α) : Guards strict P (pure v : Run σ α) P :=
  guards_quiet (adds_pure v) (fun _ _ _ added => added.1 ▸ List.forall_mem_nil _) nofun

theorem guards_note {e : Event} (harmless : e.Harmless) :
    Guards strict P (log e : Run σ Unit) P :=
  guards_quiet (adds_log e)
    (fun _ _ _ added => added.1 ▸ List.forall_mem_singleton.mpr harmless) nofun

theorem guards_log (e : Event) : Guards strict P (log e : Run σ Unit) anyGate :=
  guards_logging (adds_log e) (fun _ _ _ added => ⟨[e], added.1⟩) nofun

theorem guards_act (a : Act σ α) : Guards strict P (act a) anyGate :=
  guards_logging (adds_act a) (fun _ _ _ ⟨_, added, _⟩ => ⟨_, added⟩) nofun

theorem guards_files : Guards strict P (files : Run σ FileTree) P :=
  guards_quiet (adds_act Act.files)
    (fun _ _ _ ⟨_, added, _⟩ => added ▸ List.forall_mem_nil _) nofun

theorem guards_attempt {a : Attempt σ α}
    (mild : ∀ desk m, (a.run.run desk).1 ≠ .error (.fatal m)) :
    Guards strict P (attempt a) anyGate :=
  guards_logging (adds_attempt a) (fun _ _ _ ⟨_, added, _⟩ => ⟨_, added⟩)
    fun _ _ m ⟨desk, _, ended⟩ => mild desk m ended.symm

/-- An attempt that has to log nothing of note. -/
theorem guards_attempt_note {a : Attempt σ α}
    (harmless : strict → ∀ desk, ∀ e ∈ (a.run.run desk).2.2, e.Harmless)
    (mild : ∀ desk m, (a.run.run desk).1 ≠ .error (.fatal m)) :
    Guards strict P (attempt a) fun g => strict → P g :=
  fun s => (adds_attempt a s).mono fun g h result added pre => by
    obtain ⟨desk, rfl, rfl⟩ := added
    refine ⟨Gate.governs_logged _, fun _ _ holds => ?_, fun m ended => (mild desk m ended).elim⟩
    rwa [g.followAll_asides (List.forall_mem_map.mpr (harmless holds desk))]

theorem guards_tell (p : Progress) : Guards strict P (tell p : Run σ Unit) P :=
  guards_quiet (adds_tell p)
    (fun _ _ _ added => added.1 ▸ List.forall_mem_singleton.mpr trivial) nofun

theorem guards_report (change : Reporter → Reporter) (keeps : ∀ r, (change r).gate = r.gate) :
    Guards strict P (report change : Run σ Unit) P :=
  guards_quiet (adds_report change keeps)
    (fun _ _ _ added => added.1 ▸ List.forall_mem_nil _) nofun

theorem guards_print (text : String) : Guards strict P (print text : Run σ Unit) P :=
  guards_quiet (adds_print text) (fun _ _ _ added => added.1 ▸ List.forall_mem_nil _) nofun

theorem guards_checkFatal : Guards strict anyGate (checkFatal : Run σ Unit) Gate.Open :=
  fun s => (adds_checkFatal s).mono fun g h result added _ => by
    obtain ⟨rfl, rfl⟩ := added
    cases raised : g.fatal <;> simp [Gate.check_eq, Gate.Governs, Gate.Open, raised]

theorem guards_enter (stage : Stage) :
    Guards strict Gate.Open (enter stage : Run σ Unit) Gate.Open :=
  guards_record (fun _ => rfl) id

theorem guards_transition (stage : Stage) :
    Guards strict Gate.Open (transition stage : Run σ Unit) Gate.Open := by
  have got : Guards strict Gate.Open (get : Run σ (RunState σ)) Gate.Open :=
    guards_quiet adds_get (fun _ _ _ added => added.1 ▸ List.forall_mem_nil _)
      fun _ _ _ ⟨_, _, ended, _⟩ => by cases ended
  exact got.then fun _ => (guards_note (.inl rfl)).then fun _ => guards_enter stage

theorem guards_publish (t : Template σ) (doclets : Collection) (options : Options)
    (tutorials : TutorialTree) :
    Guards strict (fun g => strict → g.Open) (publish t doclets options tutorials) anyGate :=
  fun s => (adds_publish t doclets options tutorials s).mono fun g h result added pre => by
    obtain ⟨desk, rfl, rfl⟩ := added
    have parted {g : Gate} (r : Except Error Unit) : g.Governs strict (parting r) := by
      cases r with
      | ok v => trivial
      | error e => exact ⟨⟨fun _ => False.elim, id⟩, trivial⟩
    refine ⟨⟨⟨fun holds _ => pre holds, id⟩, ?_⟩, fun _ _ => trivial, fun m ended => .inr ?_⟩
    · exact Gate.governs_append.mpr ⟨Gate.governs_logged _, parted _⟩
    · simp [ended, parting]

theorem guards_stop {R : Gate → Prop} {stopped going : Run σ α}
    (first : Guards strict anyGate stopped R) (second : Guards strict Gate.Open going R) :
    Guards strict anyGate (Run.watch.stop >>= fun stop => if stop then stopped else going) R := by
  intro s
  have asked : (Run.watch.stop : Run σ Bool).run s = (.ok s.reporter.gate.raised, s) := rfl
  unfold AddsFrom
  rw [run_bind, asked]
  cases raised : s.reporter.gate.raised with
  | true => exact first s
  | false =>
    have open_ : s.reporter.gate.Open := Gate.raised_eq_false_iff.mp raised
    obtain ⟨h, history, gate, holds⟩ := second s
    exact ⟨h, history, gate, fun _ => holds open_⟩

end Primitives

end Run

end RefDoc
