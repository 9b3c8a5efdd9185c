import RefDoc.Plugin.Builtin
import RefDoc.Template.Builtin

/-!
# The catalog

All plugins and templates there are, by name. Extensions found in a directory name one of them; none
brings code of its own. The catalog holds what makes them, each time anew.
-/

namespace RefDoc

variable {σ α : Type}

/-- Makes a value each time it is called. A call may look at the files, take notes and log; it leaves
the files alone. -/
structure Factory (σ α : Type) where
  call : FileTree → σ → α × σ × List Event

namespace Factory

/-- Makes the same value every time, and does nothing else. -/
def of (v : α) : Factory σ α := ⟨fun _ notes => (v, notes, [])⟩

def make (f : Factory σ α) : Act σ α := fun desk =>
  let (v, notes, log) := f.call desk.files desk.notes
  (v, { desk with notes }, log)

/-- What is made on a desk. -/
def made (f : Factory σ α) (desk : Desk σ) : α := (f.make.run desk).1

end Factory

structure Catalog (σ : Type) where
  plugins : Table (Factory σ (Plugin σ)) := ∅
  templates : Table (Factory σ (Template σ)) := ∅

namespace Catalog

def builtin : Catalog σ where
  plugins := Plugin.builtin.map .of
  templates := Template.builtin.map .of

/-- The plugin of that name, as it is made on a desk. -/
def plugin? (c : Catalog σ) (desk : Desk σ) (name : String) : Option (Plugin σ) :=
  (c.plugins.get? name).map (·.made desk)

/-- The template of that name, as it is made on a desk. -/
def template? (c : Catalog σ) (desk : Desk σ) (name : String) : Option (Template σ) :=
  (c.templates.get? name).map (·.made desk)

end Catalog

end RefDoc
