import RefDoc.Proofs.Desk
import RefDoc.Proofs.Run.Guarded

/-!
# Parts of a run that follow attempts

A part of a run agrees with an attempt if it gives what the attempt gives on the same desk, leaves
the desk that the attempt leaves, and prints nothing. It follows the attempt if, from any state, it
agrees with it or else is ended by the gate (`Run.Follows`). What only concerns the history follows the
attempt that does nothing.

A parse that the gate stops is cut short without any error. It tracks an action (`Run.Tracks`): it
ends well, and agrees with the action unless the gate is raised by then. With a check of the gate
behind it, it follows the action (`Run.Tracks.follows`).
-/

namespace RefDoc

variable {σ α β : Type}

namespace RunState

/-- From `s` to `s'` nothing is printed, and `desk` is left. -/
structure Leaves (s : RunState σ) (desk : Desk σ) (s' : RunState σ) : Prop where
  left : s'.desk = desk
  printed : s'.printed = s.printed
  output : s'.output = s.output

theorem leaves_same (s : RunState σ) : s.Leaves s.desk s := ⟨rfl, rfl, rfl⟩

theorem Leaves.trans {s s' s'' : RunState σ} {desk desk' : Desk σ} (first : s.Leaves desk s')
    (second : s'.Leaves desk' s'') : s.Leaves desk' s'' :=
  ⟨second.left, second.printed.trans first.printed, second.output.trans first.output⟩

end RunState

namespace Run

section Agreement

variable {r : Run σ α} {a : Attempt σ α} {f : α → Run σ β} {g : α → Attempt σ β} {s : RunState σ}

/-- The part gives from `s` what the attempt gives. -/
structure Agrees (r : Run σ α) (a : Attempt σ α) (s : RunState σ) : Prop where
  result : (r.run s).1 = (a.run.run s.desk).1
  leaves : s.Leaves (a.run.run s.desk).2.1 (r.run s).2

theorem Agrees.bind_error (first : r.Agrees a s) {e : Error} {s' : RunState σ}
    (ran : r.run s = (.error e, s')) : (r >>= f).Agrees (a >>= g) s := by
  obtain ⟨result, leaves⟩ := first
  rcases given : a.run.run s.desk with ⟨e' | v', desk, log⟩ <;> rw [ran, given] at result leaves <;>
    cases result
  constructor <;> rw [run_bind, ran, Attempt.bind_run, given]
  exact leaves

theorem Agrees.bind_ok (first : r.Agrees a s) {v : α} {s' : RunState σ}
    (ran : r.run s = (.ok v, s')) (next : (f v).Agrees (g v) s') :
    (r >>= f).Agrees (a >>= g) s := by
  obtain ⟨result, leaves⟩ := first
  rcases given : a.run.run s.desk with ⟨e' | v', desk, log⟩ <;> rw [ran, given] at result leaves <;>
    cases result
  obtain ⟨result', leaves'⟩ := next
  rw [leaves.left] at result' leaves'
  constructor <;> rw [bind_of_ok ran, Attempt.bind_run, given]
  · exact result'
  · exact leaves.trans leaves'

/-- Run from `s`, the part is ended by the gate. -/
structure Halts (r : Run σ α) (s : RunState σ) : Prop where
  fatal : ∃ m, (r.run s).1 = .error (.fatal m)
  raised : (r.run s).2.reporter.gate.raised

theorem Halts.bind (halts : r.Halts s) (f : α → Run σ β) : (r >>= f).Halts s := by
  obtain ⟨⟨m, fatal⟩, raised⟩ := halts
  have ran : r.run s = (.error (.fatal m), (r.run s).2) := Prod.ext fatal rfl
  constructor <;> rw [run_bind, ran]
  · exact ⟨m, rfl⟩
  · exact raised

theorem Halts.congr {r' : Run σ α} {s' : RunState σ} (same : r.run s = r'.run s')
    (halts : r'.Halts s') : r.Halts s := by
  constructor <;> rw [same]
  · exact halts.fatal
  · exact halts.raised

theorem Halts.after {v : α} {s' : RunState σ} (ran : r.run s = (.ok v, s'))
    (halts : (f v).Halts s') : (r >>= f).Halts s := halts.congr (bind_of_ok ran f)

/-! ### Following an attempt -/

def Follows (r : Run σ α) (a : Attempt σ α) : Prop := ∀ s, r.Halts s ∨ r.Agrees a s

theorem Follows.bind (first : r.Follows a) (next : ∀ v, (f v).Follows (g v)) :
    (r >>= f).Follows (a >>= g) := by
  intro s
  rcases first s with halts | agrees
  · exact .inl (halts.bind f)
  rcases ended : r.run s with ⟨e | v, s'⟩
  · exact .inr (agrees.bind_error ended)
  · rcases next v s' with halts | agrees'
    · exact .inl (halts.after ended)
    · exact .inr (agrees.bind_ok ended agrees')

/-- What follows the attempt that does nothing may be left out. -/
theorem Follows.then {r : Run σ Unit} {f : Unit → Run σ β} {a : Attempt σ β}
    (first : r.Follows (pure ())) (next : ∀ v, (f v).Follows a) : (r >>= f).Follows a := by
  rw [← pure_bind () fun _ => a]
  exact first.bind next

theorem follows_pure (v : α) : (pure v : Run σ α).Follows (pure v) :=
  fun s => .inr ⟨rfl, s.leaves_same⟩

theorem follows_checkFatal : (checkFatal : Run σ Unit).Follows (pure ()) := by
  intro s
  cases raised : s.reporter.gate.fatal with
  | some m => exact .inl ⟨⟨m, by simp [Gate.check_eq, raised]⟩, Gate.raised_iff.mpr ⟨m, raised⟩⟩
  | none => exact .inr ⟨by simp [Gate.check_eq, raised], s.leaves_same⟩

theorem Follows.checked (first : r.Follows a) :
    (r >>= fun v => checkFatal >>= fun _ => pure v).Follows a := by
  rw [← bind_pure a]
  exact first.bind fun v => follows_checkFatal.then fun _ => follows_pure v

end Agreement

/-! ### Tracking an action -/

section Tracking

/-- How a part ends that tracks an action. -/
structure TracksFrom (r : Run σ α) (a : Act σ α) (s : RunState σ) : Prop where
  ends : ∃ v, (r.run s).1 = .ok v
  /-- The gate stays raised. -/
  keeps : s.reporter.gate.raised → (r.run s).2.reporter.gate.raised
  gives : (r.run s).2.reporter.gate.raised ∨ r.Agrees (.act a) s

def Tracks (r : Run σ α) (a : Act σ α) : Prop := ∀ s, r.TracksFrom a s

variable {r : Run σ α} {a : Act σ α}

theorem Tracks.bind {f : α → Run σ β} {g : α → Act σ β} (first : r.Tracks a)
    (next : ∀ v, (f v).Tracks (g v)) : (r >>= f).Tracks (a >>= g) := by
  intro s
  obtain ⟨⟨v, ended⟩, keeps, gives⟩ := first s
  have ran : r.run s = (.ok v, (r.run s).2) := Prod.ext ended rfl
  obtain ⟨ends', keeps', gives'⟩ := next v (r.run s).2
  refine ⟨?_, ?_, ?_⟩
  · rwa [bind_of_ok ran]
  · rw [bind_of_ok ran]
    exact fun raised => keeps' (keeps raised)
  · rcases gives with raised | agrees
    · rw [bind_of_ok ran]
      exact .inl (keeps' raised)
    · refine gives'.imp (fun raised => by rwa [bind_of_ok ran]) fun agrees' => ?_
      rw [Attempt.act_bind]
      exact agrees.bind_ok ran agrees'

/-- What tracks the action that does nothing may be left out. -/
theorem Tracks.then {r : Run σ Unit} {f : Unit → Run σ β} {a : Act σ β}
    (first : r.Tracks (pure ())) (next : ∀ v, (f v).Tracks a) : (r >>= f).Tracks a := by
  rw [← pure_bind () fun _ => a]
  exact first.bind next

end Tracking

end Run

end RefDoc
