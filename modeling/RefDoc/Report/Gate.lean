import RefDoc.Error
import RefDoc.Report.Event

/-!
# The severity gate

The gate sees every log event. Once armed it lets errors fail the run; armed pedantically it lets
warnings fail the run, and errors stop it. What it has seen is never forgotten, and the first error
that stops a run is the one that is reported.
-/

namespace RefDoc

inductive Policy where
  | disarmed
  | lenient
  | pedantic
  deriving DecidableEq, Repr, Inhabited

def Policy.label : Policy → String
  | disarmed => "Disarmed"
  | lenient => "Default"
  | pedantic => "Pedantic"

structure Gate where
  policy : Policy := .disarmed
  /-- A logged problem fails the run. -/
  failing : Bool := false
  /-- A logged error stops the run. -/
  raised : Bool := false
  /-- The message of the first error that stops the run. -/
  fatal : Option String := none
  raised_eq : raised = fatal.isSome := by rfl
  deriving DecidableEq, Repr, Inhabited

namespace Gate

def arm (g : Gate) (pedantic : Bool) : Gate :=
  { g with policy := if pedantic then .pedantic else .lenient }

def observe (g : Gate) (e : Event) : Gate :=
  match g.policy, e.level with
  | .lenient, .error => { g with failing := true }
  | .pedantic, .warn => { g with failing := true }
  | .pedantic, .error =>
    { g with
      failing := true
      raised := true
      fatal := g.fatal.or (some (e.message.getD ""))
      raised_eq := by simp }
  | _, _ => g

/-- What stands for a message that is missing. -/
def untold : String := "an error was logged in pedantic mode"

def check (g : Gate) : Except Error Unit :=
  if g.raised then .error (.fatal (g.fatal.getD untold)) else .ok ()

/-- A gate that is raised has a message. -/
theorem raised_iff {g : Gate} : g.raised ↔ ∃ m, g.fatal = some m := by
  rw [g.raised_eq]
  exact Option.isSome_iff_exists

theorem raised_eq_false_iff {g : Gate} : g.raised = false ↔ g.fatal = none := by
  rw [g.raised_eq]
  simp

/-- So nothing ever has to stand for its message. -/
theorem check_eq (g : Gate) :
    g.check = match g.fatal with
      | some message => .error (.fatal message)
      | none => .ok () := by
  rw [check, g.raised_eq]
  cases g.fatal <;> rfl

def observeAll (g : Gate) (es : List Event) : Gate := es.foldl observe g

/-- The exit code of a run that ended well or with an error. -/
def exitCode (g : Gate) (ended : Bool) : Nat := if !ended || g.failing then 1 else 0

end Gate

/-- The gate of a run, and whether the run was started and finished. -/
structure Reporter where
  gate : Gate := {}
  started : Bool := false
  finished : Bool := false
  deriving DecidableEq, Repr, Inhabited

namespace Reporter

def observe (r : Reporter) (e : Event) : Reporter := { r with gate := r.gate.observe e }

def observeAll (r : Reporter) (es : List Event) : Reporter :=
  { r with gate := r.gate.observeAll es }

def arm (r : Reporter) (pedantic : Bool) : Reporter := { r with gate := r.gate.arm pedantic }

/-- What is logged once the gate is armed. -/
def armedEvent (r : Reporter) : Event :=
  .debug "severity gate armed" [("policy", r.gate.policy.label)]

def start (r : Reporter) : Reporter := { r with started := true }

/-- Times are not kept, so the event of the level info that tells how long a run has taken is left
out here. -/
def finish (r : Reporter) : Reporter := { r with finished := true }

end Reporter

/-- How much of the log is shown, and whether in colour. -/
structure LogSettings where
  level : Level
  coloured : Bool
  deriving DecidableEq, Repr, Inhabited

def LogSettings.ofFlags (debug verbose plain : Bool) : LogSettings :=
  ⟨if debug then .debug else if verbose then .info else .warn, !plain⟩

end RefDoc
