import RefDoc.Desk

/-!
# What actions give

`Gives a P` says that the value of `a` has the property `P` whatever the desk. Actions in a row and
loops are handled by one rule each. An attempt is run step by step, up to the first error.
-/

namespace RefDoc.Act

variable {σ α β : Type} {P : α → Prop} {Q : β → Prop}

/-- Whatever the desk, the value has the property. -/
def Gives (a : Act σ α) (P : α → Prop) : Prop := ∀ desk, P (a.run desk).1

theorem files_run (d : Desk σ) : (files : Act σ FileTree).run d = (d.files, d, []) := rfl

theorem logAll_run (es : List Event) (d : Desk σ) :
    (logAll es : Act σ Unit).run d = ((), d, es) := rfl

theorem gives_pure {v : α} (h : P v) : (pure v : Act σ α).Gives P := fun _ => h

theorem gives_true (a : Act σ α) : a.Gives fun _ => True := fun _ => trivial

theorem Gives.bind {a : Act σ α} {f : α → Act σ β} (h : a.Gives P)
    (next : ∀ v, P v → (f v).Gives Q) : (a >>= f).Gives Q := fun desk => next _ (h desk) _

theorem gives_foldlM {f : β → α → Act σ β} (step : ∀ b a, Q b → (f b a).Gives Q) (l : List α)
    {b : β} (start : Q b) : (l.foldlM f b).Gives Q := by
  induction l generalizing b with
  | nil => exact gives_pure start
  | cons a rest ih =>
    rw [List.foldlM_cons]
    exact (step b a start).bind fun _ => ih

end RefDoc.Act

/-! ### Running attempts -/

namespace RefDoc.Attempt

variable {σ α β : Type}

@[simp] theorem pure_run (v : α) (d : Desk σ) :
    (pure v : Attempt σ α).run.run d = (.ok v, d, []) := rfl

theorem bind_run (a : Attempt σ α) (f : α → Attempt σ β) (d : Desk σ) :
    (a >>= f).run.run d =
      match a.run.run d with
      | (.ok v, d, log) =>
        (((f v).run.run d).1, ((f v).run.run d).2.1, log ++ ((f v).run.run d).2.2)
      | (.error e, d, log) => (.error e, d, log) := by
  show (Act.run (do let x ← a.run; ExceptT.bindCont f x) d) = _
  rw [Act.bind_run]
  rcases a.run.run d with ⟨_ | v, d, log⟩
  · simp [ExceptT.bindCont]
  · rfl

@[simp] theorem act_run (a : Act σ α) (d : Desk σ) :
    (act a).run.run d = (.ok (a.run d).1, (a.run d).2.1, (a.run d).2.2) := by
  show (_, _, (a.run d).2.2 ++ []) = _
  rw [List.append_nil]
  rfl

theorem act_bind (a : Act σ α) (f : α → Act σ β) :
    act (a >>= f) = act a >>= fun v => act (f v) := by
  funext d
  show (act (a >>= f)).run.run d = (act a >>= fun v => act (f v)).run.run d
  simp only [Attempt.bind_run, act_run, Act.bind_run]

@[simp] theorem log_run (e : Event) (d : Desk σ) :
    (log e : Attempt σ Unit).run.run d = (.ok (), d, [e]) := rfl

@[simp] theorem files_run (d : Desk σ) :
    (files : Attempt σ FileTree).run.run d = (.ok d.files, d, []) := rfl

@[simp] theorem ofExcept_run (r : Except Error α) (d : Desk σ) :
    (ofExcept r : Attempt σ α).run.run d = (r, d, []) := rfl

end RefDoc.Attempt
