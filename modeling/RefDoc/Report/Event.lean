/-!
# Log events

An event has a level, mostly a message, and named values as text.
-/

namespace RefDoc

inductive Level where
  | debug
  | info
  | warn
  | error
  deriving DecidableEq, Repr, Inhabited

def Level.name : Level → String
  | debug => "DEBUG"
  | info => "INFO"
  | warn => "WARN"
  | error => "ERROR"

/-- How much a level matters. -/
def Level.rank : Level → Nat
  | debug => 0
  | info => 1
  | warn => 2
  | error => 3

structure Event where
  level : Level
  message : Option String
  fields : List (String × String) := []
  deriving DecidableEq, Repr, Inhabited

namespace Event

def debug (message : String) (fields : List (String × String) := []) : Event :=
  ⟨.debug, some message, fields⟩

def info (message : String) (fields : List (String × String) := []) : Event :=
  ⟨.info, some message, fields⟩

def warn (message : String) (fields : List (String × String) := []) : Event :=
  ⟨.warn, some message, fields⟩

def error (message : String) (fields : List (String × String) := []) : Event :=
  ⟨.error, some message, fields⟩

/-- The event on one line. -/
def line (e : Event) : String :=
  " ".intercalate
    ([e.level.name] ++ e.message.toList ++ e.fields.map fun (name, value) => s!"{name}={value}")

end Event

end RefDoc
