import RefDoc.Error
import RefDoc.Report.Event

/-!
# Actions

An action works on a desk, which holds the files and whatever notes the one who runs it takes, and
logs events. What has been logged cannot be taken back or looked at by later actions: the log of two
actions in a row is the log of the first and then that of the second (`Act.bind_run`). An `Act`
always ends; an `Attempt` may end with an error, and what it has done and logged until then stays.
-/

namespace RefDoc

structure Desk (σ : Type) where
  files : FileTree
  notes : σ

/-- What an action gives, the desk it leaves and what it logs. -/
def Act (σ α : Type) : Type := Desk σ → α × Desk σ × List Event

variable {σ α β : Type}

namespace Act

def run (a : Act σ α) (d : Desk σ) : α × Desk σ × List Event := a d

instance : Monad (Act σ) where
  pure v := fun d => (v, d, [])
  bind a f := fun d =>
    let (v, d, log) := a d
    let (w, d, more) := f v d
    (w, d, log ++ more)

@[simp] theorem pure_run (v : α) (d : Desk σ) : (pure v : Act σ α).run d = (v, d, []) := rfl

theorem bind_run (a : Act σ α) (f : α → Act σ β) (d : Desk σ) :
    (a >>= f).run d =
      (((f (a.run d).1).run (a.run d).2.1).1, ((f (a.run d).1).run (a.run d).2.1).2.1,
        (a.run d).2.2 ++ ((f (a.run d).1).run (a.run d).2.1).2.2) := rfl

theorem map_id_eq (a : Act σ α) : id <$> a = a :=
  funext fun d => by
    show ((a d).1, (a d).2.1, (a d).2.2 ++ []) = a d
    simp

theorem pure_bind_eq (v : α) (f : α → Act σ β) : pure v >>= f = f v := rfl

theorem bind_assoc_eq {γ : Type} (a : Act σ α) (f : α → Act σ β) (g : β → Act σ γ) :
    a >>= f >>= g = a >>= fun v => f v >>= g :=
  funext fun d => by simp [bind, List.append_assoc]

instance : LawfulMonad (Act σ) := .mk' (Act σ) map_id_eq pure_bind_eq bind_assoc_eq

def log (e : Event) : Act σ Unit := fun d => ((), d, [e])

def logAll (es : List Event) : Act σ Unit := fun d => ((), d, es)

/-- What is seen on the desk. -/
def look (see : Desk σ → α) : Act σ α := fun d => (see d, d, [])

def files : Act σ FileTree := look (·.files)

def note (change : σ → σ) : Act σ Unit := fun d => ((), { d with notes := change d.notes }, [])

/-- Gives what was logged as well. -/
def listen (a : Act σ α) : Act σ (α × List Event) := fun d =>
  let (v, d, log) := a d
  ((v, log), d, log)

end Act

abbrev Attempt (σ : Type) := ExceptT Error (Act σ)

namespace Attempt

/-- What cannot fail. -/
def act (a : Act σ α) : Attempt σ α := ExceptT.lift a

def log (e : Event) : Attempt σ Unit := act (Act.log e)

def files : Attempt σ FileTree := act Act.files

def ofExcept (r : Except Error α) : Attempt σ α := ExceptT.mk (pure r)

/-- Changes the files. A fault ends with an error that names `path`. -/
def changeFiles (path : Path) (change : FileTree → Except FileFault FileTree) : Attempt σ Unit :=
  ExceptT.mk fun d =>
    match change d.files with
    | .ok files => (.ok (), { d with files }, [])
    | .error e => (.error (.file path e), d, [])

/-- Changes the files as far as that goes. A fault ends with an error that names `path`. -/
def tryFiles (path : Path) (change : FileTree → Except FileFault Unit × FileTree) :
    Attempt σ Unit :=
  ExceptT.mk fun d =>
    let (result, files) := change d.files
    (result.mapError (.file path), { d with files }, [])

end Attempt

end RefDoc
